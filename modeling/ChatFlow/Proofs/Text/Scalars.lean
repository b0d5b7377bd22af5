import ChatFlow.Proofs.Json.Documents
import ChatFlow.Proofs.Json.Encoding
import ChatFlow.Proofs.Template.Names
import ChatFlow.Proofs.Text.Cuts
import ChatFlow.Proofs.Text.Integers
import ChatFlow.Proofs.Text.Readings

/-!
# What is shown of texts that were stored

A numeral is a row of decimal digits, of one script or of several. It writes a number, and is taken for it unless it has
too many digits.

A text that writes a number is stored as this number: a numeral, or two of them with a point in between, behind a minus
sign or none. What is shown of it later is the number in its usual form. All other texts are shown as they were, also
those that are stored as truth values.

* `Text.numeralValue`: the number that a numeral writes; `numeralValue_ofNat` says that the digits of a number write it.
* `Text.decimalNumber_eq`: how a numeral is read.
* `CodePoint.isDigit_of_decimal`, `CodePoint.ne_of_isDecimal`: what decimal digits are, and what they are not.
* `NumeralMark.ofText?_of_numeral`: the marks of a number.
* `Text.writesInteger_iff`, `Text.writesFraction_iff`: the texts that write numbers.
* `Text.IsShownAs`: what is shown of a text that was stored.
* `Text.IsShownAs.exists_scalar`: it is what is shown of the value that the text is stored as.
-/

namespace ChatFlow

variable {t ds places : Text} {c : CodePoint} {negative : Bool}

/-! ## Numerals -/

namespace CodePoint

theorem isDigit_of_decimal (h : c.isDecimal = true) : c.isDigit = true := by
  rw [isDigit, h, Bool.true_or]

theorem isDecimal_of_digit (h : Json.isDigit c = true) : c.isDecimal = true := by
  rw [isDecimal, decimal?_of_digit h, Option.isSome_some]

/-- A code point that is no digit is none of a numeral. -/
theorem ne_of_isDecimal {d : CodePoint} (hd : d.isDecimal = false) (h : c.isDecimal = true) : c ≠ d := by
  rintro rfl
  rw [h] at hd
  cases hd

end CodePoint

namespace Text

instance (ds : Text) : Decidable ds.IsNumeral := inferInstanceAs (Decidable (_ ∧ _))

theorem IsNumeral.notMem {d : CodePoint} (h : ds.IsNumeral) (hd : d.isDecimal = false) : d ∉ ds :=
  fun hmem => CodePoint.ne_of_isDecimal hd (h.2 d hmem) rfl

/-- The number that decimal digits of any script write. -/
def numeralValue (ds : Text) : Nat := ds.foldl (fun n c => n * 10 + c.decimal?.getD 0) 0

theorem decimalNumber_eq (ds : Text) : decimalNumber ds =
    if maxIntegerDigits < ds.length then .error .integerTooLong else .ok ds.numeralValue := rfl

/-- Digits of ASCII write the number that they write in documents. -/
theorem numeralValue_of_digits (h : ∀ c ∈ ds, Json.isDigit c = true) : ds.numeralValue = Json.digitsValue ds := by
  have hfrom : ∀ start, ds.foldl (fun n c => n * 10 + c.decimal?.getD 0) start =
      ds.foldl (fun n d => n * 10 + (d.toNat - 0x30)) start := by
    induction ds with
    | nil => exact fun _ => rfl
    | cons c ds ih =>
        intro start
        rw [List.foldl_cons, List.foldl_cons, CodePoint.decimal?_of_digit (h c List.mem_cons_self), Option.getD_some]
        exact ih (fun c hc => h c (List.mem_cons_of_mem _ hc)) _
  exact hfrom 0

theorem numeralValue_ofNat (n : Nat) : (ofNat n).numeralValue = n := by
  rw [numeralValue_of_digits (digits_ofNat n), Json.digitsValue_ofNat]

theorem isNumeral_ofNat (n : Nat) : (ofNat n).IsNumeral :=
  ⟨ofNat_ne_nil n, fun c hc => CodePoint.isDecimal_of_digit (digits_ofNat n c hc)⟩

end Text

/-! ## Digits of all scripts -/

/-- No block of digits has blanks in it. -/
theorem Unicode.zeros_between_blanks : ∀ first ∈ zeros, first = 0x30 ∨ (0x660 ≤ first ∧ first + 10 ≤ 0x1680) ∨
    (0x1681 ≤ first ∧ first + 10 ≤ 0x2000) ∨ 0x3001 ≤ first := by
  decide +kernel

theorem CodePoint.isBlank_of_isDecimal (h : c.isDecimal = true) : c.isBlank = false := by
  rw [isDecimal, decimal?, Option.isSome_map] at h
  obtain ⟨first, hfirst⟩ := Option.isSome_iff_exists.mp h
  have hblock := List.find?_some hfirst
  rw [Bool.and_eq_true, decide_eq_true_eq, decide_eq_true_eq] at hblock
  have hclear := Unicode.zeros_between_blanks first (List.mem_of_find?_eq_some hfirst)
  simp only [isBlank, Bool.or_eq_false_iff, Bool.and_eq_false_iff, beq_eq_false_iff_ne, decide_eq_false_iff_not]
  omega

theorem CodePoint.decimal?_lt (c : CodePoint) : c.decimal?.getD 0 < 10 := by
  rw [decimal?]
  rcases hfirst : Unicode.zeros.find? fun first => first ≤ c.toNat && c.toNat < first + 10 with _ | first
  · exact Nat.succ_pos 9
  · have hblock := List.find?_some hfirst
    rw [Bool.and_eq_true, decide_eq_true_eq, decide_eq_true_eq] at hblock
    rw [Option.map_some, Option.getD_some]
    omega

/-- A numeral writes a number of no more digits than it has. -/
theorem Text.numeralValue_lt (ds : Text) : ds.numeralValue < 10 ^ ds.length := by
  have hfrom : ∀ (ds : Text) (start : Nat),
      ds.foldl (fun n c => n * 10 + c.decimal?.getD 0) start < (start + 1) * 10 ^ ds.length := by
    intro ds
    induction ds with
    | nil => exact fun start => by simp
    | cons c ds ih =>
        intro start
        have hdigit := c.decimal?_lt
        have hstart : start * 10 + c.decimal?.getD 0 + 1 ≤ (start + 1) * 10 := by omega
        rw [List.foldl_cons, List.length_cons, Nat.pow_succ', ← Nat.mul_assoc]
        exact Nat.lt_of_lt_of_le (ih _) (Nat.mul_le_mul_right _ hstart)
  exact (hfrom ds 0).trans_eq (by rw [Nat.zero_add, Nat.one_mul])

namespace NumeralMark

/-- The marks of digits of any script. -/
def ofNumeral (ds : Text) : List NumeralMark := ds.map fun c => .digit (c.decimal?.getD 0)

theorem ofCodePoint?_of_isDecimal (h : c.isDecimal = true) : ofCodePoint? c = some (.digit (c.decimal?.getD 0)) := by
  obtain ⟨d, hd⟩ := Option.isSome_iff_exists.mp h
  unfold ofCodePoint?
  rw [hd]
  rfl

theorem mapM_ofCodePoint?_of_numeral (h : ∀ c ∈ ds, c.isDecimal = true) :
    ds.mapM ofCodePoint? = some (ofNumeral ds) := by
  induction ds with
  | nil => rfl
  | cons c ds ih =>
      rw [List.mapM_cons, ofCodePoint?_of_isDecimal (h c List.mem_cons_self),
        ih fun c hc => h c (List.mem_cons_of_mem _ hc)]
      rfl

/-- Where there are no low lines, none are taken out. -/
theorem joinGroups?_of_no_line {marks : List NumeralMark} (afterDigit : Bool) (h : .other '_' ∉ marks) :
    joinGroups? afterDigit marks = some marks := by
  induction marks generalizing afterDigit with
  | nil => rfl
  | cons mark marks ih =>
      obtain ⟨hmark, hrest⟩ := not_or.mp (mt List.mem_cons.mpr h)
      cases mark with
      | digit d => rw [joinGroups?, ih true hrest, Option.map_some]
      | other c =>
          rw [joinGroups?, ih false hrest, Option.map_some]
          rintro rfl
          exact hmark rfl

/-- Digits are read, and then what stands behind them. -/
theorem digits_ofNumeral_append (ds : Text) (count value : Nat) (rest : List NumeralMark) :
    digits count value (ofNumeral ds ++ rest) =
      digits (count + ds.length) (ds.foldl (fun n c => n * 10 + c.decimal?.getD 0) value) rest := by
  induction ds generalizing count value with
  | nil => rfl
  | cons c ds ih =>
      show digits (count + 1) (value * 10 + c.decimal?.getD 0) (ofNumeral ds ++ rest) = _
      rw [ih, List.length_cons, List.foldl_cons, Nat.add_right_comm]
      rfl

/-- The mark of a minus sign, or none. -/
def ofMinus (negative : Bool) : List NumeralMark := if negative then [.other '-'] else []

theorem sign_ofMinus_append (hds : ds ≠ []) (rest : List NumeralMark) :
    sign (ofMinus negative ++ (ofNumeral ds ++ rest)) = (negative, ofNumeral ds ++ rest) := by
  cases negative with
  | true => rfl
  | false =>
      obtain ⟨c, r, rfl⟩ := List.exists_cons_of_ne_nil hds
      rfl

/-- What begins with a digit is no word. -/
theorem double?_ofNumeral_append (hds : ds ≠ []) (rest : List NumeralMark) :
    isInfinityWord (ofNumeral ds ++ rest) = false ∧ ofNumeral ds ++ rest ≠ "nan".toList.map .other := by
  obtain ⟨c, r, rfl⟩ := List.exists_cons_of_ne_nil hds
  have hword : ∀ word : List Char, ofNumeral (c :: r) ++ rest ≠ word.map .other := by
    rintro (_ | ⟨ch, word⟩) hsame
    · cases hsame
    · cases hsame
  rw [isInfinityWord, Bool.or_eq_false_iff, beq_eq_false_iff_ne, beq_eq_false_iff_ne]
  exact ⟨⟨hword _, hword _⟩, hword _⟩

end NumeralMark

namespace Text

/-- A minus sign, or nothing. -/
def minus (negative : Bool) : Text := if negative then [.scalar '-'] else []

theorem isDecimal_iff : isDecimal ds = true ↔ ds.IsNumeral := by
  rw [isDecimal, Bool.and_eq_true, Bool.not_eq_true', List.isEmpty_eq_false_iff, List.all_eq_true]
  rfl

/-- A minus sign is taken off, unless there is none. -/
theorem afterMinus_minus_append (hds : ds.IsNumeral) (negative : Bool) (r : Text) :
    afterMinus (minus negative ++ (ds ++ r)) = ds ++ r := by
  cases negative with
  | true => rfl
  | false =>
      -- what begins with a digit does not begin with the sign
      obtain ⟨c, ds', rfl⟩ := List.exists_cons_of_ne_nil hds.1
      have hc : c ≠ .scalar '-' := CodePoint.ne_of_isDecimal (by decide) (hds.2 c List.mem_cons_self)
      rw [minus, if_neg Bool.false_ne_true, List.nil_append, List.cons_append, afterMinus]
      rintro r' ⟨⟩
      exact hc rfl

theorem exists_minus (t : Text) : ∃ negative, t = minus negative ++ afterMinus t := by
  unfold afterMinus
  split
  · exact ⟨true, rfl⟩
  · exact ⟨false, rfl⟩

theorem withoutLineEnd_of_notMem (h : .scalar '\n' ∉ t) : withoutLineEnd t = t := by
  rw [withoutLineEnd, if_neg]
  exact fun hlast => h (List.mem_of_getLast? hlast)

/-! ## Texts that write numbers -/

/-- An integer as it is written: a numeral behind a minus sign or none. -/
def integer (negative : Bool) (ds : Text) : Text := minus negative ++ ds

/-- A number with places behind a point as it is written. -/
def fraction (negative : Bool) (ds places : Text) : Text := minus negative ++ (ds ++ .scalar '.' :: places)

/-- A text that writes a number. -/
def IsNumber (t : Text) : Prop :=
  (∃ negative ds, ds.IsNumeral ∧ t = integer negative ds) ∨
    ∃ negative ds places, ds.IsNumeral ∧ places.IsNumeral ∧ t = fraction negative ds places

theorem writesInteger_iff :
    writesInteger t = true ↔ ∃ negative ds, ds.IsNumeral ∧ withoutLineEnd t = integer negative ds := by
  rw [writesInteger, isDecimal_iff]
  constructor
  · intro hds
    obtain ⟨negative, ht⟩ := exists_minus (withoutLineEnd t)
    exact ⟨negative, _, hds, ht⟩
  · rintro ⟨negative, ds, hds, ht⟩
    have hafter := afterMinus_minus_append hds negative []
    rw [List.append_nil] at hafter
    rw [ht, integer, hafter]
    exact hds

theorem writesFraction_iff : writesFraction t = true ↔ ∃ negative ds places, ds.IsNumeral ∧ places.IsNumeral ∧
    withoutLineEnd t = fraction negative ds places := by
  rw [writesFraction]
  constructor
  · intro h
    split at h
    · next ds places hparts =>
        rw [Bool.and_eq_true, isDecimal_iff, isDecimal_iff] at h
        obtain ⟨negative, ht⟩ := exists_minus (withoutLineEnd t)
        rw [eq_of_partition hparts] at ht
        exact ⟨negative, ds, places, h.1, h.2, ht⟩
    · cases h
  · rintro ⟨negative, ds, places, hds, hplaces, ht⟩
    rw [ht, fraction, afterMinus_minus_append hds, partition_append (hds.notMem (by decide))]
    dsimp only
    rw [Bool.and_eq_true, isDecimal_iff, isDecimal_iff]
    exact ⟨hds, hplaces⟩

theorem isNumber_iff : IsNumber (withoutLineEnd t) ↔ writesInteger t = true ∨ writesFraction t = true := by
  rw [writesInteger_iff, writesFraction_iff, IsNumber]

theorem notMem_minus {c : CodePoint} (hc : c ≠ .scalar '-') (negative : Bool) : c ∉ minus negative := by
  cases negative with
  | true => simpa [minus] using hc
  | false => exact List.not_mem_nil

theorem withoutLineEnd_integer (hds : ds.IsNumeral) : withoutLineEnd (integer negative ds) = integer negative ds := by
  apply withoutLineEnd_of_notMem
  rw [integer, List.mem_append, not_or]
  exact ⟨notMem_minus (by decide) negative, hds.notMem (by decide)⟩

theorem withoutLineEnd_fraction (hds : ds.IsNumeral) (hplaces : places.IsNumeral) :
    withoutLineEnd (fraction negative ds places) = fraction negative ds places := by
  apply withoutLineEnd_of_notMem
  rw [fraction, List.mem_append, List.mem_append, List.mem_cons, not_or, not_or, not_or]
  exact ⟨notMem_minus (by decide) negative, hds.notMem (by decide), by decide, hplaces.notMem (by decide)⟩

/-- There is no point in an integer. -/
theorem fraction_ne_integer {other : Bool} {es : Text} (hes : es.IsNumeral) :
    fraction negative ds places ≠ integer other es := by
  intro hsame
  have hpoint : .scalar '.' ∈ integer other es := by
    rw [← hsame, fraction]
    simp
  rw [integer, List.mem_append] at hpoint
  rcases hpoint with hminus | hdigit
  · exact notMem_minus (by decide) other hminus
  · exact hes.notMem (by decide) hdigit

/-! ## What they are read as -/

/-- The marks of a number: those of its sign, of its digits, and of what stands behind them. -/
theorem ofText?_minus_append (negative : Bool) {r : Text} {marks : List NumeralMark} (hds : ds.IsNumeral)
    (hlast : ∀ c ∈ (ds ++ r).getLast?, c.isBlank = false) (hr : r.mapM NumeralMark.ofCodePoint? = some marks)
    (hline : .other '_' ∉ marks) : NumeralMark.ofText? (minus negative ++ (ds ++ r)) =
      some (NumeralMark.ofMinus negative ++ (NumeralMark.ofNumeral ds ++ marks)) := by
  have htrim : (minus negative ++ (ds ++ r)).trim = minus negative ++ (ds ++ r) := by
    obtain ⟨c, ds', rfl⟩ := List.exists_cons_of_ne_nil hds.1
    apply trim_of_ends
    · cases negative with
      | true =>
          rintro _ ⟨⟩
          decide
      | false =>
          rintro _ ⟨⟩
          exact CodePoint.isBlank_of_isDecimal (hds.2 c List.mem_cons_self)
    · rw [List.getLast?_append_of_ne_nil (minus negative) (List.append_ne_nil_of_left_ne_nil hds.1 r)]
      exact hlast
  have hminus : (minus negative).mapM NumeralMark.ofCodePoint? = some (NumeralMark.ofMinus negative) := by
    cases negative with
    | true => decide +kernel
    | false => rfl
  have hnone : .other '_' ∉ NumeralMark.ofMinus negative ++ (NumeralMark.ofNumeral ds ++ marks) := by
    rw [List.mem_append, List.mem_append, not_or, not_or]
    refine ⟨?_, ?_, hline⟩
    · cases negative with
      | true => decide
      | false => exact List.not_mem_nil
    · intro hmem
      obtain ⟨c, -, hc⟩ := List.mem_map.mp hmem
      cases hc
  rw [NumeralMark.ofText?, htrim, List.mapM_append, List.mapM_append, hminus,
    NumeralMark.mapM_ofCodePoint?_of_numeral hds.2, hr]
  exact NumeralMark.joinGroups?_of_no_line false hnone

theorem isBlank_getLast?_append (hds : ds.IsNumeral) (r : Text) : ∀ c ∈ (r ++ ds).getLast?, c.isBlank = false := by
  intro c hc
  rw [List.getLast?_append_of_ne_nil r hds.1] at hc
  exact CodePoint.isBlank_of_isDecimal (hds.2 c (List.mem_of_getLast? hc))

/-- An integer is read as it, unless it has too many digits. -/
theorem toInteger?_integer (hds : ds.IsNumeral) (hshort : ds.length ≤ maxIntegerDigits) :
    (integer negative ds).toInteger? = some (if negative then -(ds.numeralValue : Int) else ds.numeralValue) := by
  have hmarks : NumeralMark.ofText? (integer negative ds) =
      some (NumeralMark.ofMinus negative ++ (NumeralMark.ofNumeral ds ++ [])) := by
    have hself := ofText?_minus_append negative (r := []) hds
      (by rw [List.append_nil]; exact isBlank_getLast?_append hds []) rfl List.not_mem_nil
    rw [List.append_nil] at hself
    exact hself
  have hcount : ¬ (0 + ds.length = 0 ∨ maxIntegerDigits < 0 + ds.length) := by
    rw [Nat.zero_add, not_or, Nat.not_lt, List.length_eq_zero_iff]
    exact ⟨hds.1, hshort⟩
  rw [toInteger?, hmarks, Option.bind_eq_bind, Option.bind_some, NumeralMark.sign_ofMinus_append hds.1]
  dsimp only
  rw [NumeralMark.digits_ofNumeral_append]
  exact if_neg hcount

/-- A number with places behind its point is read as the double that is nearest to it. -/
theorem toDouble?_fraction (hds : ds.IsNumeral) (hplaces : places.IsNumeral) : (fraction negative ds places).toDouble? =
    some (Double.ofDecimal negative (ds ++ places).numeralValue (0 - places.length)) := by
  have hpoint : (.scalar '.' :: places : Text).mapM NumeralMark.ofCodePoint? =
      some (.other '.' :: NumeralMark.ofNumeral places) := by
    have hmark : NumeralMark.ofCodePoint? (.scalar '.') = some (.other '.') := by decide +kernel
    rw [List.mapM_cons, hmark, NumeralMark.mapM_ofCodePoint?_of_numeral hplaces.2]
    rfl
  have hline : .other '_' ∉ NumeralMark.other '.' :: NumeralMark.ofNumeral places := by
    rw [List.mem_cons, not_or]
    refine ⟨by decide, fun hmem => ?_⟩
    obtain ⟨c, -, hc⟩ := List.mem_map.mp hmem
    cases hc
  have hlast : ∀ c ∈ (ds ++ .scalar '.' :: places).getLast?, c.isBlank = false := by
    rw [← List.singleton_append, ← List.append_assoc]
    exact isBlank_getLast?_append hplaces _
  -- behind the point, the value goes on from that of the digits before it, and the count begins anew
  have hbehind : NumeralMark.digits 0 (ds.foldl (fun n c => n * 10 + c.decimal?.getD 0) 0)
      (NumeralMark.ofNumeral places) = (places.length, (ds ++ places).numeralValue, []) := by
    rw [← List.append_nil (NumeralMark.ofNumeral places), NumeralMark.digits_ofNumeral_append, numeralValue,
      List.foldl_append, Nat.zero_add]
    rfl
  have hcount : ¬ 0 + ds.length + places.length = 0 := by
    have hnone := mt List.length_eq_zero_iff.mp hds.1
    omega
  obtain ⟨hinfinity, hnan⟩ := NumeralMark.double?_ofNumeral_append hds.1 (.other '.' :: NumeralMark.ofNumeral places)
  rw [toDouble?, fraction, ofText?_minus_append negative hds hlast hpoint hline, Option.bind_eq_bind, Option.bind_some,
    NumeralMark.sign_ofMinus_append hds.1]
  dsimp only
  rw [NumeralMark.double?, hinfinity, if_neg Bool.false_ne_true, if_neg hnan, NumeralMark.digits_ofNumeral_append]
  simp only [NumeralMark.digits, hbehind, if_neg hcount]
  rfl

/-! ## What they are stored as, and what is shown then -/

theorem scalar_integer (hds : ds.IsNumeral) (hshort : ds.length ≤ maxIntegerDigits) : (integer negative ds).scalar =
    .ok (.int (if negative then -(ds.numeralValue : Int) else ds.numeralValue)) := by
  have hinteger : writesInteger (integer negative ds) = true :=
    writesInteger_iff.mpr ⟨negative, ds, hds, withoutLineEnd_integer hds⟩
  rw [scalar, if_pos hinteger, toInteger?_integer hds hshort]

theorem scalar_fraction (hds : ds.IsNumeral) (hplaces : places.IsNumeral) : (fraction negative ds places).scalar =
    .ok (.float (.ofDecimal negative (ds ++ places).numeralValue (0 - places.length))) := by
  have hinteger : ¬ writesInteger (fraction negative ds places) = true := by
    rw [writesInteger_iff, withoutLineEnd_fraction hds hplaces]
    rintro ⟨other, es, hes, hsame⟩
    exact fraction_ne_integer hes hsame
  have hfraction : writesFraction (fraction negative ds places) = true :=
    writesFraction_iff.mpr ⟨negative, ds, places, hds, hplaces, withoutLineEnd_fraction hds hplaces⟩
  rw [scalar, if_neg hinteger, if_pos hfraction, toDouble?_fraction hds hplaces, Option.getD_some]

/-- A text that writes no number is stored as itself, or as the truth value that it names. -/
theorem scalar_of_not_isNumber (h : ¬ IsNumber (withoutLineEnd t)) :
    t.scalar = .ok (.text t) ∨ ∃ b : Bool, t.scalar = .ok (.bool b) ∧ t = if b then "true" else "false" := by
  obtain ⟨hinteger, hfraction⟩ := not_or.mp (mt isNumber_iff.mpr h)
  rw [scalar, if_neg hinteger, if_neg hfraction]
  split
  · next htrue => exact .inr ⟨true, rfl, htrue⟩
  · split
    · next hfalse => exact .inr ⟨false, rfl, hfalse⟩
    · exact .inl rfl

/-- What is shown of a text that was stored: of an integer its decimal text, of a number with places behind its point the
text of the double that is nearest to it, and any other text as it is. -/
inductive IsShownAs : Text → Text → Prop where
  | integer (negative : Bool) {ds : Text} (hds : ds.IsNumeral) (hshort : ds.length ≤ maxIntegerDigits) :
      IsShownAs (integer negative ds) (ofInt (if negative then -(ds.numeralValue : Int) else ds.numeralValue))
  | fraction (negative : Bool) {ds places : Text} (hds : ds.IsNumeral) (hplaces : places.IsNumeral) :
      IsShownAs (fraction negative ds places)
        (Value.doubleText (.ofDecimal negative (ds ++ places).numeralValue (0 - places.length)))
  | same {t : Text} (h : ¬ IsNumber (withoutLineEnd t)) : IsShownAs t t

/-- Of the decimal text of an integer, this text is shown. -/
theorem isShownAs_ofInt {n : Int} (h : integerTooLong n = false) : IsShownAs (ofInt n) (ofInt n) := by
  have hshown := IsShownAs.integer (decide (n < 0)) (isNumeral_ofNat n.natAbs) (length_ofNat_le h)
  rw [numeralValue_ofNat] at hshown
  by_cases hnegative : n < 0
  · have hvalue : -(n.natAbs : Int) = n := by omega
    rw [decide_eq_true hnegative, if_pos rfl, hvalue] at hshown
    rw [ofInt, if_pos hnegative] at hshown ⊢
    exact hshown
  · have hvalue : (n.natAbs : Int) = n := by omega
    rw [decide_eq_false hnegative, if_neg Bool.false_ne_true, hvalue] at hshown
    rw [ofInt, if_neg hnegative] at hshown ⊢
    exact hshown

theorem not_integerTooLong_of_numeral (negative : Bool) (hshort : ds.length ≤ maxIntegerDigits) :
    integerTooLong (if negative then -(ds.numeralValue : Int) else ds.numeralValue) = false := by
  have hsize : (if negative then -(ds.numeralValue : Int) else ds.numeralValue).natAbs = ds.numeralValue := by
    cases negative with
    | true => exact (Int.natAbs_neg _).trans (Int.natAbs_natCast _)
    | false => exact Int.natAbs_natCast _
  have hpow : ∀ k, ds.length ≤ k → 10 ^ ds.length ≤ Nat.pow 10 k :=
    fun k hk => Nat.pow_le_pow_right (Nat.succ_pos 9) hk
  rw [integerTooLong, decide_eq_false_iff_not, Nat.not_le, hsize]
  exact Nat.lt_of_lt_of_le ds.numeralValue_lt (hpow _ hshort)

/-- It is what is shown of the value that the text is stored as, which a document can hold. -/
theorem IsShownAs.exists_scalar {shown : Text} (h : t.IsShownAs shown) : ∃ v, t.scalar = .ok v ∧ v ≠ .null ∧
    v.IsDocument ∧ (t.isWellFormed = true → v.isEncodable = true) ∧ v.display = .ok shown := by
  cases h with
  | integer negative hds hshort =>
      have hlong := not_integerTooLong_of_numeral negative hshort
      refine ⟨_, scalar_integer hds hshort, Value.noConfusion, .int hlong, fun _ => rfl, ?_⟩
      rw [Value.display, Value.integerText, hlong]
      rfl
  | fraction negative hds hplaces =>
      exact ⟨_, scalar_fraction hds hplaces, Value.noConfusion, .float _, fun _ => rfl, rfl⟩
  | same h =>
      rcases scalar_of_not_isNumber h with htext | ⟨b, hbool, rfl⟩
      · exact ⟨_, htext, Value.noConfusion, .text t, fun hformed => hformed, rfl⟩
      · exact ⟨_, hbool, Value.noConfusion, .bool b, fun _ => rfl, by cases b <;> rfl⟩

end Text

end ChatFlow
