import ChatFlow.Proofs.Unicode.Ascii

/-!
# Numbers as they are spelled

A number is spelled in a base of its own, or in decimal digits with a point and an exponent; low lines may part its
digits. The lexer reads it back, whatever stands behind it that cannot go on with it.

* `Numeral`: a number as it is spelled. `Numeral.text`, `Numeral.value?`: the spelling, and the value if there is one.
* `Numeral.number?_append`: the lexer reads the value, and stops where the spelling ends.
-/

namespace ChatFlow

/-- Digits, with a low line before some of those behind the first one. -/
structure DigitRow (p : Char → Bool) where
  first : {c : CodePoint // c.isAscii p = true}
  more : List (Bool × {c : CodePoint // c.isAscii p = true})

namespace DigitRow

variable {p : Char → Bool}

/-- The spelling of the digits behind the first one. -/
def moreText (more : List (Bool × {c : CodePoint // c.isAscii p = true})) : Text :=
  more.flatMap fun (line, d) => if line then [.scalar '_', d.val] else [d.val]

/-- The spelling. -/
def text (row : DigitRow p) : Text := row.first.val :: moreText row.more

/-- The digits alone. -/
def digits (row : DigitRow p) : Text := row.first.val :: row.more.map fun (_, d) => d.val

theorem length_moreText (more : List (Bool × {c : CodePoint // c.isAscii p = true})) :
    more.length ≤ (moreText more).length := by
  induction more with
  | nil => exact Nat.le_refl _
  | cons entry more ih =>
      rw [moreText, List.flatMap_cons, List.length_append, List.length_cons]
      have hentry : 1 ≤ (if entry.1 then [CodePoint.scalar '_', entry.2.val] else [entry.2.val] : Text).length := by
        split <;> simp
      exact Nat.le_trans (Nat.add_le_add ih hentry) (Nat.le_of_eq (Nat.add_comm _ _))

theorem length_more_lt (row : DigitRow p) : row.more.length < row.text.length :=
  Nat.lt_succ_of_le (length_moreText row.more)

end DigitRow

/-- The bases that have an opening of their own. -/
inductive Base where
  | hexadecimal
  | octal
  | binary

namespace Base

def radix : Base → Nat
  | hexadecimal => 16
  | octal => 8
  | binary => 2

/-- The letter of the opening. -/
def letter : Base → Bool → CodePoint
  | hexadecimal, upper => .scalar (if upper then 'X' else 'x')
  | octal, upper => .scalar (if upper then 'O' else 'o')
  | binary, upper => .scalar (if upper then 'B' else 'b')

def isDigit : Base → Char → Bool
  | hexadecimal, ch => ch.isDigit || ('a' ≤ ch.toLower && ch.toLower ≤ 'f')
  | octal, ch => '0' ≤ ch && ch ≤ '7'
  | binary, ch => ch == '0' || ch == '1'

end Base

/-- An exponent as it is spelled. -/
structure Exponent where
  upper : Bool
  /-- The sign, if there is one: is it a minus sign? -/
  negative : Option Bool
  digits : DigitRow Char.isDigit

namespace Exponent

def text (x : Exponent) : Text :=
  .scalar (if x.upper then 'E' else 'e') ::
    ((x.negative.elim [] fun negative => [.scalar (if negative then '-' else '+')]) ++ x.digits.text)

def value (x : Exponent) : Int :=
  let n := Lexer.digitsIn 10 x.digits.digits
  if x.negative = some true then -(n : Int) else n

end Exponent

/-- A number as it is spelled. -/
inductive Numeral where
  | based (base : Base) (upper line : Bool) (digits : DigitRow base.isDigit)
  /-- Decimal digits, perhaps with a point and digits behind it, and an exponent. -/
  | decimal (whole : DigitRow Char.isDigit) (fraction : Option (Option (DigitRow Char.isDigit)))
      (exponent : Option Exponent)
  /-- A point with digits behind it, and perhaps an exponent. -/
  | pointed (fraction : DigitRow Char.isDigit) (exponent : Option Exponent)

namespace Numeral

/-- A point and the digits behind it. -/
def fractionText : Option (Option (DigitRow Char.isDigit)) → Text
  | none => []
  | some fraction => .scalar '.' :: fraction.elim [] DigitRow.text

def fractionDigits (fraction : Option (Option (DigitRow Char.isDigit))) : Text :=
  fraction.join.elim [] DigitRow.digits

def exponentText (exponent : Option Exponent) : Text := exponent.elim [] Exponent.text

/-- The spelling. -/
def text : Numeral → Text
  | based base upper line ds =>
      .scalar '0' :: base.letter upper :: ((if line then [.scalar '_'] else []) ++ ds.text)
  | decimal whole fraction exponent => whole.text ++ (fractionText fraction ++ exponentText exponent)
  | pointed fraction exponent => .scalar '.' :: (fraction.text ++ exponentText exponent)

/-- The double of digits before and behind a point, and an exponent. -/
def double (whole fraction : Text) (exponent : Option Exponent) : Value :=
  .float (.ofDecimal false (Lexer.digitsIn 10 (whole ++ fraction)) ((exponent.elim 0 Exponent.value) - fraction.length))

/-- The value. An integer that opens with a zero has to be zero, and one of too many digits has no value. -/
def value? : Numeral → Option Value
  | based base _ _ ds => some (.int (Lexer.digitsIn base.radix ds.digits))
  | decimal whole none none =>
      let value := Lexer.digitsIn 10 whole.digits
      if whole.first.val = .scalar '0' ∧ value ≠ 0 then none
      else if maxIntegerDigits < whole.digits.length then none
      else some (.int value)
  | decimal whole fraction exponent => some (double whole.digits (fractionDigits fraction) exponent)
  | pointed fraction exponent => some (double [] fraction.digits exponent)

end Numeral

/-- Can nothing that stands before the text go on with it? It is empty, or it begins with a character that belongs to no
word, number or quotation. -/
def Text.Stops (r : Text) : Prop :=
  ∀ c ∈ r.head?, Lexer.isWordPart c = false ∧ c ≠ .scalar '.' ∧ c ≠ .scalar '"' ∧ c ≠ .scalar '\''

namespace Lexer

variable {p : Char → Bool} {c d : CodePoint} {t r : Text} {fuel : Nat}

/-! ## Digits -/

theorem digitGroups_digit (hc : c.isAscii p = true) (hd : d.isAscii p = true) :
    digitGroups p (fuel + 1) (c :: d :: t) = (digitGroups p (fuel + 1) (d :: t)).map fun (ds, r) => (c :: ds, r) := by
  simp only [digitGroups, List.takeWhile_cons, hc, hd, if_true, List.isEmpty_cons, List.length_cons,
    List.drop_succ_cons, Bool.false_eq_true, if_false]
  split
  · simp only [Option.map_map, Function.comp_def, List.cons_append]
  · rfl

theorem digitGroups_line (hc : c.isAscii p = true) (hline : p '_' = false) :
    digitGroups p (fuel + 1) (c :: .scalar '_' :: t) = (digitGroups p fuel t).map fun (ds, r) => (c :: ds, r) := by
  have hstop : CodePoint.isAscii p (.scalar '_') = false := by rw [CodePoint.isAscii, hline, Bool.and_false]
  simp only [digitGroups, List.takeWhile_cons, hc, hstop, if_true, List.isEmpty_cons, List.length_cons, List.length_nil,
    List.drop_succ_cons, List.drop_zero, Bool.false_eq_true, if_false, List.singleton_append]

theorem digitGroups_end (hc : c.isAscii p = true) (hr : ∀ d ∈ r.head?, d.isAscii p = false ∧ d ≠ .scalar '_') :
    digitGroups p (fuel + 1) (c :: r) = some ([c], r) := by
  have hnone : r.takeWhile (·.isAscii p) = [] := by
    cases r with
    | nil => rfl
    | cons d r => rw [List.takeWhile_cons, (hr d rfl).1]; rfl
  simp only [digitGroups, List.takeWhile_cons, hc, hnone, if_true, List.isEmpty_cons, List.length_cons, List.length_nil,
    List.drop_succ_cons, List.drop_zero, Bool.false_eq_true, if_false]
  split
  · exact absurd rfl (hr _ rfl).2
  · rfl

/-- Spelled digits are read back. -/
theorem digitGroups_append (row : DigitRow p) (hline : p '_' = false)
    (hr : ∀ d ∈ r.head?, d.isAscii p = false ∧ d ≠ .scalar '_') (hfuel : row.more.length < fuel) :
    digitGroups p fuel (row.text ++ r) = some (row.digits, r) := by
  obtain ⟨first, more⟩ := row
  induction more generalizing first fuel with
  | nil =>
      obtain ⟨fuel, rfl⟩ := Nat.exists_eq_add_of_lt hfuel
      exact digitGroups_end first.property hr
  | cons entry more ih =>
      obtain ⟨line, d⟩ := entry
      obtain ⟨fuel, rfl⟩ : ∃ n, fuel = n + 1 := ⟨fuel - 1, by simp only at hfuel; omega⟩
      rw [List.length_cons] at hfuel
      -- a digit prolongs the group that is being read, and a low line takes a step to the next group
      cases line with
      | false =>
          have hrest : digitGroups p (fuel + 1) _ = _ := ih d (by simp only; omega)
          change digitGroups p (fuel + 1) (first.val :: d.val :: (DigitRow.moreText more ++ r)) = _
          rw [digitGroups_digit first.property d.property]
          exact congrArg (Option.map _) hrest
      | true =>
          have hrest : digitGroups p fuel _ = _ := ih d (by simp only; omega)
          change digitGroups p (fuel + 1) (first.val :: .scalar '_' :: d.val :: (DigitRow.moreText more ++ r)) = _
          rw [digitGroups_line first.property hline]
          exact congrArg (Option.map _) hrest

end Lexer

/-! ## What stands behind a number -/

theorem isAlphanum_of_isDigit (ch : Char) (h : ch.isDigit = true) : (ch.isAlphanum || ch == '_') = true := by
  rw [Char.isAlphanum, h]
  simp

namespace Text.Stops

variable {r : Text} (hr : r.Stops)
include hr

theorem notDigit {p : Char → Bool} (hp : ∀ ch, p ch = true → (ch.isAlphanum || ch == '_') = true) :
    ∀ d ∈ r.head?, d.isAscii p = false ∧ d ≠ .scalar '_' := by
  intro d hd
  have hpart := (hr d hd).1
  refine ⟨?_, fun hline => absurd (hline ▸ hpart) (by decide)⟩
  cases d with
  | surrogate n => rfl
  | scalar ch =>
      rw [Lexer.isWordPart, Bool.or_eq_false_iff, CodePoint.isAscii] at hpart
      rw [CodePoint.isAscii]
      cases hdigit : p ch with
      | false => exact Bool.and_false _
      | true => rw [hp ch hdigit] at hpart; exact hpart.2

theorem endsNumber : Lexer.endsNumber r = true := by
  cases r with
  | nil => rfl
  | cons c r => rw [Lexer.endsNumber, (hr c rfl).1]; rfl

theorem exponent?_eq : Lexer.exponent? r = none := by
  cases r with
  | nil => rfl
  | cons c r =>
      have hletter : ¬ (c = 'e' ∨ c = 'E') := by
        rintro (rfl | rfl) <;> exact absurd (hr _ rfl).1 (by decide)
      unfold Lexer.exponent?
      exact if_neg hletter

theorem opensExponent_eq : Lexer.opensExponent r = false := by
  match r, hr with
  | [], _ => rfl
  | [_], _ => rfl
  | e :: s :: r, hr =>
      have hlower : (e == .scalar 'e') = false := beq_eq_false_iff_ne.mpr fun h => absurd (h ▸ (hr e rfl).1) (by decide)
      have hupper : (e == .scalar 'E') = false := beq_eq_false_iff_ne.mpr fun h => absurd (h ▸ (hr e rfl).1) (by decide)
      rw [Lexer.opensExponent, hlower, hupper]
      rfl

end Text.Stops

namespace Lexer

variable {r : Text}

theorem digitGroups_row {p : Char → Bool} (row : DigitRow p) (hline : p '_' = false)
    (hr : ∀ d ∈ r.head?, d.isAscii p = false ∧ d ≠ .scalar '_') :
    digitGroups p ((row.text ++ r).length + 1) (row.text ++ r) = some (row.digits, r) := by
  refine digitGroups_append row hline hr ?_
  have hlength := row.length_more_lt
  rw [List.length_append]
  omega

/-- No sign opens digits. -/
theorem head_ne_of_digit {p : Char → Bool} (row : DigitRow p) {ch : Char} (h : p ch = false) :
    row.first.val ≠ .scalar ch := by
  intro hfirst
  have hdigit := row.first.property
  rw [hfirst, CodePoint.isAscii, h, Bool.and_false] at hdigit
  exact absurd hdigit (by decide)

theorem exponent?_append (x : Exponent) (hr : r.Stops) : exponent? (x.text ++ r) = some (x.value, r) := by
  obtain ⟨upper, negative, digits⟩ := x
  have hdigits := digitGroups_row digits (r := r) (by decide) (hr.notDigit isAlphanum_of_isDigit)
  have hletter : (CodePoint.scalar (if upper then 'E' else 'e') = 'e' ∨
      CodePoint.scalar (if upper then 'E' else 'e') = 'E') := by cases upper <;> decide
  cases negative with
  | none =>
      change exponent? (_ :: (digits.text ++ r)) = _
      unfold exponent?
      simp only [if_pos hletter]
      split
      · next hhead => exact absurd (List.cons.inj hhead).1 (head_ne_of_digit digits (by decide))
      · next hhead => exact absurd (List.cons.inj hhead).1 (head_ne_of_digit digits (by decide))
      · rw [hdigits]
        rfl
  | some negative =>
      cases negative with
      | false =>
          change exponent? (_ :: .scalar '+' :: (digits.text ++ r)) = _
          unfold exponent?
          simp only [if_pos hletter, hdigits]
          rfl
      | true =>
          change exponent? (_ :: .scalar '-' :: (digits.text ++ r)) = _
          unfold exponent?
          simp only [if_pos hletter, hdigits]
          rfl

/-! ## Decimal numbers, one part after the other -/

/-- The digits before a point. -/
def wholeDigits? (t : Text) : Option (Text × Text) :=
  match t with
  | .scalar '.' :: _ => some ([], t)
  | _ => digitGroups Char.isDigit (t.length + 1) t

/-- The digits behind a point, and whether there is one. -/
def fractionDigits? (r : Text) : Option (Text × Text × Bool) :=
  match r with
  | .scalar '.' :: r =>
    if r.head?.any (·.isAscii Char.isDigit) then
      (digitGroups Char.isDigit (r.length + 1) r).map fun (ds, r) => (ds, r, true)
    else some ([], r, true)
  | _ => some ([], r, false)

/-- The number behind the digits: an exponent, and the letter of the imaginary ones. -/
def decimalEnd? (whole fraction r : Text) (pointed : Bool) : Option (Token × Text) :=
  let scaled := exponent? r
  if scaled.isNone && opensExponent r then none
  else
    let r := (scaled.map Prod.snd).getD r
    let value := digitsIn 10 (whole ++ fraction)
    match r with
    | c :: r' =>
      if c = 'j' ∨ c = 'J' then
        if endsNumber r' then some (.imaginary, r') else none
      else decimalNumber?.finish whole fraction r pointed scaled value
    | [] => decimalNumber?.finish whole fraction r pointed scaled value

/-- The number from its fraction on. -/
def decimalRest? (whole r : Text) : Option (Token × Text) :=
  (fractionDigits? r).bind fun (fraction, r, pointed) => decimalEnd? whole fraction r pointed

theorem decimalRest?_point (whole tail : Text) :
    decimalRest? whole (.scalar '.' :: tail) =
      if tail.head?.any (·.isAscii Char.isDigit) then
        (digitGroups Char.isDigit (tail.length + 1) tail).bind fun (ds, r) => decimalEnd? whole ds r true
      else decimalEnd? whole [] tail true := by
  rw [decimalRest?, fractionDigits?]
  split
  · cases digitGroups Char.isDigit _ _ <;> rfl
  · rfl

theorem decimalRest?_of_ne (whole : Text) (h : ∀ tail, r ≠ .scalar '.' :: tail) :
    decimalRest? whole r = decimalEnd? whole [] r false := by
  rw [decimalRest?, fractionDigits?]
  · rfl
  · exact h

theorem decimalNumber?_eq (t : Text) :
    decimalNumber? t = (wholeDigits? t).bind fun (whole, r) => decimalRest? whole r := by
  unfold decimalNumber?
  split
  · next tail =>
      change _ = decimalRest? [] (.scalar '.' :: tail)
      rw [decimalRest?_point]
      by_cases hdigit : tail.head?.any (·.isAscii Char.isDigit) = true
      · simp only [bind, Option.bind, if_pos hdigit]
        cases digitGroups Char.isDigit (tail.length + 1) tail <;> rfl
      · simp only [bind, Option.bind, if_neg hdigit]
        rfl
  · next hpoint =>
      have hwhole : wholeDigits? t = digitGroups Char.isDigit (t.length + 1) t := by
        rw [wholeDigits?]
        exact hpoint
      rw [hwhole]
      rcases digitGroups Char.isDigit (t.length + 1) t with _ | ⟨whole, r⟩
      · rfl
      · change _ = decimalRest? whole r
        dsimp only [bind, Option.bind]
        split
        · next tail =>
            rw [decimalRest?_point]
            by_cases hdigit : tail.head?.any (·.isAscii Char.isDigit) = true
            · simp only [if_pos hdigit]
              cases digitGroups Char.isDigit (tail.length + 1) tail <;> rfl
            · simp only [if_neg hdigit]
              rfl
        · next hnone =>
            rw [decimalRest?_of_ne whole hnone]
            rfl

/-- What may follow digits and is no digit: a point, an exponent, or the end of the number. -/
theorem rest_notDigit (fraction : Option (Option (DigitRow Char.isDigit))) (exponent : Option Exponent) (hr : r.Stops) :
    ∀ d ∈ (Numeral.fractionText fraction ++ (Numeral.exponentText exponent ++ r)).head?,
      d.isAscii Char.isDigit = false ∧ d ≠ .scalar '_' := by
  cases fraction with
  | some fraction => rintro d hd; cases hd; decide
  | none =>
      cases exponent with
      | none => exact hr.notDigit isAlphanum_of_isDigit
      | some x =>
          obtain ⟨upper, negative, digits⟩ := x
          rintro d hd
          cases hd
          change CodePoint.isAscii _ (.scalar (if upper then 'E' else 'e')) = _ ∧
            CodePoint.scalar (if upper then 'E' else 'e') ≠ _
          cases upper <;> decide

theorem wholeDigits?_append (whole : DigitRow Char.isDigit)
    (hr : ∀ d ∈ r.head?, d.isAscii Char.isDigit = false ∧ d ≠ .scalar '_') :
    wholeDigits? (whole.text ++ r) = some (whole.digits, r) := by
  unfold wholeDigits?
  split
  · next hhead => exact absurd (List.cons.inj hhead).1 (head_ne_of_digit whole (by decide))
  · exact digitGroups_row whole (by decide) hr

theorem decimalRest?_append (whole : Text) (fraction : Option (Option (DigitRow Char.isDigit)))
    (exponent : Option Exponent) (hr : r.Stops) :
    decimalRest? whole (Numeral.fractionText fraction ++ (Numeral.exponentText exponent ++ r)) =
      decimalEnd? whole (Numeral.fractionDigits fraction) (Numeral.exponentText exponent ++ r) fraction.isSome := by
  have hrest : ∀ d ∈ (Numeral.exponentText exponent ++ r).head?, d.isAscii Char.isDigit = false ∧ d ≠ .scalar '_' :=
    rest_notDigit none exponent hr
  match fraction with
  | none =>
      refine decimalRest?_of_ne whole fun tail hhead => ?_
      cases exponent with
      | none => exact (hr (.scalar '.') (by rw [show r = _ from hhead]; rfl)).2.1 rfl
      | some x =>
          have hletter := (List.cons.inj hhead).1
          cases hupper : x.upper <;> rw [hupper] at hletter <;> exact absurd hletter (by decide)
  | some none =>
      have hstop : (Numeral.exponentText exponent ++ r).head?.any (·.isAscii Char.isDigit) = false := by
        cases hhead : (Numeral.exponentText exponent ++ r).head? with
        | none => rfl
        | some d => exact (hrest d hhead).1
      refine (decimalRest?_point whole (Numeral.exponentText exponent ++ r)).trans ?_
      rw [if_neg (ne_true_of_eq_false hstop)]
      rfl
  | some (some row) =>
      refine (decimalRest?_point whole (row.text ++ (Numeral.exponentText exponent ++ r))).trans ?_
      have hfirst : (row.text ++ (Numeral.exponentText exponent ++ r)).head?.any (·.isAscii Char.isDigit) = true :=
        row.first.property
      rw [if_pos hfirst, digitGroups_row row (by decide) hrest]
      rfl

theorem exponent?_exponentText (exponent : Option Exponent) (hr : r.Stops) :
    exponent? (Numeral.exponentText exponent ++ r) = exponent.map fun x => (x.value, r) := by
  cases exponent with
  | none => exact hr.exponent?_eq
  | some x => exact exponent?_append x hr

/-- The number that the parts come to. -/
theorem decimalEnd?_append (whole fraction : Text) (pointed : Bool) (exponent : Option Exponent) (hr : r.Stops) :
    decimalEnd? whole fraction (Numeral.exponentText exponent ++ r) pointed =
      decimalNumber?.finish whole fraction r pointed (exponent.map fun x => (x.value, r))
        (digitsIn 10 (whole ++ fraction)) := by
  have hnext : (((exponent.map fun x => (x.value, r)).map Prod.snd).getD (Numeral.exponentText exponent ++ r)) = r := by
    cases exponent <;> rfl
  have hopen : ((exponent.map fun x => (x.value, r)).isNone &&
      opensExponent (Numeral.exponentText exponent ++ r)) = false := by
    cases exponent with
    | none => exact hr.opensExponent_eq
    | some x => rfl
  simp only [decimalEnd?, exponent?_exponentText exponent hr, hnext, hopen, Bool.false_eq_true, if_false]
  split
  · next _ c r' =>
      have hletter : ¬ (c = 'j' ∨ c = 'J') := by
        rintro (rfl | rfl) <;> exact absurd (hr _ rfl).1 (by decide)
      rw [if_neg hletter]
  · rfl

theorem finish_integer (whole : DigitRow Char.isDigit) (hr : r.Stops) :
    decimalNumber?.finish whole.digits [] r false none (digitsIn 10 (whole.digits ++ [])) =
      (Numeral.decimal whole none none).value?.map fun v => (.number v, r) := by
  have hzero : (whole.digits.head? = some (.scalar '0') && digitsIn 10 whole.digits ≠ 0) = true ↔
      whole.first.val = .scalar '0' ∧ digitsIn 10 whole.digits ≠ 0 := by
    rw [Bool.and_eq_true, decide_eq_true_eq, decide_eq_true_eq]
    exact and_congr_left' Option.some_inj
  simp only [decimalNumber?.finish, hr.endsNumber, List.append_nil, Numeral.value?, Bool.not_true, Bool.or_false,
    Option.isSome_none, Bool.false_eq_true, if_false, hzero]
  split
  · rfl
  · split <;> rfl

theorem decimalNumber?_decimal (whole : DigitRow Char.isDigit) (fraction : Option (Option (DigitRow Char.isDigit)))
    (exponent : Option Exponent) (hr : r.Stops) :
    decimalNumber? ((Numeral.decimal whole fraction exponent).text ++ r) =
      (Numeral.decimal whole fraction exponent).value?.map fun v => (.number v, r) := by
  rw [decimalNumber?_eq, Numeral.text, List.append_assoc, List.append_assoc,
    wholeDigits?_append whole (rest_notDigit fraction exponent hr), Option.bind_some]
  simp only [decimalRest?_append _ fraction exponent hr, decimalEnd?_append _ _ _ exponent hr]
  match fraction, exponent with
  | none, none => exact finish_integer whole hr
  | none, some x => rw [decimalNumber?.finish, hr.endsNumber]; rfl
  | some fraction, none => rw [decimalNumber?.finish, hr.endsNumber]; rfl
  | some fraction, some x => rw [decimalNumber?.finish, hr.endsNumber]; rfl

theorem decimalNumber?_pointed (fraction : DigitRow Char.isDigit) (exponent : Option Exponent) (hr : r.Stops) :
    decimalNumber? ((Numeral.pointed fraction exponent).text ++ r) =
      (Numeral.pointed fraction exponent).value?.map fun v => (.number v, r) := by
  have hrest := decimalRest?_append [] (some (some fraction)) exponent hr
  rw [decimalEnd?_append _ _ _ exponent hr, decimalNumber?.finish, hr.endsNumber] at hrest
  rw [decimalNumber?_eq, Numeral.text, List.cons_append, List.append_assoc]
  cases exponent <;> exact hrest.trans rfl

/-! ## Numbers -/

theorem alphanum_of_baseDigit (base : Base) {ch : Char} (h : base.isDigit ch = true) :
    (ch.isAlphanum || ch == '_') = true := by
  rw [Char.isAlphanum, Bool.or_eq_true, Bool.or_eq_true]
  cases base with
  | binary =>
      rw [Base.isDigit, Bool.or_eq_true, beq_iff_eq, beq_iff_eq] at h
      rcases h with rfl | rfl <;> decide
  | octal =>
      rw [Base.isDigit, Bool.and_eq_true, decide_eq_true_eq, decide_eq_true_eq] at h
      rw [CodePoint.isDigit_iff]
      have hlow : 48 ≤ ch.toNat := h.1
      have hhigh : ch.toNat ≤ 55 := h.2
      omega
  | hexadecimal =>
      rw [Base.isDigit, Bool.or_eq_true, Bool.and_eq_true, decide_eq_true_eq, decide_eq_true_eq] at h
      rcases h with h | ⟨hlow, hhigh⟩
      · exact .inl (.inr h)
      · rw [CodePoint.isAlpha_iff]
        unfold Char.toLower at hlow hhigh
        split at hlow
        · next hupper =>
            simp only [ge_iff_le, UInt32.le_iff_toNat_le] at hupper
            exact .inl (.inl (.inl hupper))
        · next hupper =>
            rw [dif_neg hupper] at hhigh
            have hletter : 97 ≤ ch.toNat := hlow
            have hlast : ch.toNat ≤ 102 := hhigh
            omega

theorem basedNumber?_append (base : Base) (line : Bool) (digits : DigitRow base.isDigit) (hr : r.Stops) :
    basedNumber? base.radix base.isDigit (((if line then [.scalar '_'] else []) ++ digits.text) ++ r) =
      some (.number (.int (digitsIn base.radix digits.digits)), r) := by
  have hline : base.isDigit '_' = false := by cases base <;> decide
  have hrow := digitGroups_row digits hline (hr.notDigit fun ch h => alphanum_of_baseDigit base h)
  have hdigit : r.head?.any (·.isAscii Char.isDigit) = false := by
    cases hhead : r.head? with
    | none => rfl
    | some d => exact (hr.notDigit isAlphanum_of_isDigit d hhead).1
  cases line with
  | true =>
      change basedNumber? base.radix base.isDigit (.scalar '_' :: (digits.text ++ r)) = _
      unfold basedNumber?
      simp only [hrow, bind, Option.bind, hdigit, hr.endsNumber]
      rfl
  | false =>
      change basedNumber? base.radix base.isDigit (digits.text ++ r) = _
      unfold basedNumber?
      split
      · next hhead => exact absurd (List.cons.inj hhead).1 (head_ne_of_digit digits hline)
      · simp only [hrow, bind, Option.bind, hdigit, hr.endsNumber]
        rfl

/-- No letter of a base stands behind the first digit of a decimal number. -/
theorem letter_not_second (base : Base) (upper : Bool)
    (more : List (Bool × {c : CodePoint // c.isAscii Char.isDigit = true}))
    (fraction : Option (Option (DigitRow Char.isDigit))) (exponent : Option Exponent) (hr : r.Stops) :
    base.letter upper ∉
      (DigitRow.moreText more ++ (Numeral.fractionText fraction ++ (Numeral.exponentText exponent ++ r))).head? := by
  have hletter : Lexer.isWordPart (base.letter upper) = true ∧ (base.letter upper).isAscii Char.isDigit = false ∧
      base.letter upper ∉ ['_', '.', 'e', 'E'].map CodePoint.scalar := by
    cases base <;> cases upper <;> decide
  generalize base.letter upper = c at hletter ⊢
  obtain ⟨hpart, hdigit, hsign⟩ := hletter
  intro hhead
  -- the second character is a low line, a digit, a point, the letter of an exponent, or what stands behind
  match more, fraction, exponent with
  | (true, d) :: more, _, _ => cases hhead; exact hsign (by decide)
  | (false, d) :: more, _, _ =>
      cases hhead
      exact absurd d.property (ne_true_of_eq_false hdigit)
  | [], some fraction, _ => cases hhead; exact hsign (by decide)
  | [], none, some x =>
      have hopen : CodePoint.scalar (if x.upper then 'E' else 'e') = c := Option.some.inj hhead
      cases hupper : x.upper <;> rw [hupper] at hopen <;> cases hopen <;> exact hsign (by decide)
  | [], none, none => exact absurd (hr _ hhead).1 (ne_false_of_eq_true hpart)

/-- The lexer reads a number back, whatever stands behind it that cannot go on with it. -/
theorem number?_append (n : Numeral) (hr : r.Stops) :
    number? (n.text ++ r) = n.value?.map fun v => (.number v, r) := by
  cases n with
  | based base upper line digits =>
      have hnumber := basedNumber?_append base line digits hr
      cases base <;> cases upper <;> exact hnumber
  | decimal whole fraction exponent =>
      rw [← decimalNumber?_decimal whole fraction exponent hr]
      have hsecond := fun base upper => letter_not_second base upper whole.more fraction exponent hr
      have htext : (Numeral.decimal whole fraction exponent).text ++ r =
          whole.first.val :: (DigitRow.moreText whole.more ++
            (Numeral.fractionText fraction ++ (Numeral.exponentText exponent ++ r))) := by
        rw [Numeral.text, List.append_assoc, List.append_assoc]
        rfl
      rw [htext]
      unfold number?
      split
      · -- a zero in front could open a number of another base, but no letter of a base follows
        next c rest hhead =>
          rw [(List.cons.inj hhead).2] at hsecond
          have hletter (base : Base) : ¬ (c = base.letter false ∨ c = base.letter true) := by
            rintro (rfl | rfl)
            · exact hsecond base false rfl
            · exact hsecond base true rfl
          exact (if_neg (hletter .hexadecimal)).trans ((if_neg (hletter .octal)).trans (if_neg (hletter .binary)))
      · rfl
  | pointed fraction exponent => exact decimalNumber?_pointed fraction exponent hr

end Lexer

/-! ## Characters -/

theorem CodePoint.isWordPart_of_isAscii {p : Char → Bool} {c : CodePoint}
    (hp : ∀ ch, p ch = true → (ch.isAlphanum || ch == '_') = true) (h : c.isAscii p = true) :
    Lexer.isWordPart c = true := by
  cases c with
  | surrogate n => cases h
  | scalar ch =>
      rw [isAscii, Bool.and_eq_true] at h
      rw [Lexer.isWordPart, isAscii, h.1, hp ch h.2]
      exact Bool.or_true _

theorem DigitRow.isWordPart_of_mem {p : Char → Bool} (hp : ∀ ch, p ch = true → (ch.isAlphanum || ch == '_') = true)
    (row : DigitRow p) {c : CodePoint} (h : c ∈ row.text) : Lexer.isWordPart c = true := by
  rw [text, moreText, List.mem_cons, List.mem_flatMap] at h
  rcases h with rfl | ⟨⟨line, d⟩, -, hd⟩
  · exact CodePoint.isWordPart_of_isAscii hp row.first.property
  · cases line with
    | false =>
        rw [List.mem_singleton.mp hd]
        exact CodePoint.isWordPart_of_isAscii hp d.property
    | true =>
        rcases List.mem_cons.mp hd with rfl | hd
        · decide
        · rw [List.mem_singleton.mp hd]
          exact CodePoint.isWordPart_of_isAscii hp d.property

namespace Numeral

theorem isWordPart_of_mem_digits (row : DigitRow Char.isDigit) {c : CodePoint} (h : c ∈ row.text) :
    Lexer.isWordPart c = true :=
  row.isWordPart_of_mem isAlphanum_of_isDigit h

theorem mem_exponentText {exponent : Option Exponent} {c : CodePoint} (h : c ∈ exponentText exponent) :
    Lexer.isWordPart c = true ∨ c ∈ ['.', '+', '-'].map CodePoint.scalar := by
  cases exponent with
  | none => exact absurd h List.not_mem_nil
  | some x =>
      rcases List.mem_cons.mp h with rfl | h
      · cases x.upper <;> exact .inl (by decide)
      · rcases List.mem_append.mp h with h | h
        · cases hsign : x.negative with
          | none => rw [hsign] at h; exact absurd h List.not_mem_nil
          | some negative =>
              rw [hsign] at h
              rw [List.mem_singleton.mp h]
              cases negative <;> exact .inr (by decide)
        · exact .inl (isWordPart_of_mem_digits _ h)

theorem mem_fractionText {fraction : Option (Option (DigitRow Char.isDigit))} {c : CodePoint}
    (h : c ∈ fractionText fraction) : Lexer.isWordPart c = true ∨ c ∈ ['.', '+', '-'].map CodePoint.scalar := by
  rcases fraction with _ | fraction
  · exact absurd h List.not_mem_nil
  · rcases List.mem_cons.mp h with rfl | h
    · exact .inr (by decide)
    · rcases fraction with _ | row
      · exact absurd h List.not_mem_nil
      · exact .inl (isWordPart_of_mem_digits row h)

/-- A number is spelled with characters of words, points and signs. -/
theorem mem_text {n : Numeral} {c : CodePoint} (h : c ∈ n.text) :
    Lexer.isWordPart c = true ∨ c ∈ ['.', '+', '-'].map CodePoint.scalar := by
  cases n with
  | based base upper line digits =>
      rcases List.mem_cons.mp h with rfl | h
      · exact .inl (by decide)
      · rcases List.mem_cons.mp h with rfl | h
        · cases base <;> cases upper <;> exact .inl (by decide)
        · rcases List.mem_append.mp h with h | h
          · cases line with
            | false => exact absurd h List.not_mem_nil
            | true => rw [List.mem_singleton.mp h]; exact .inl (by decide)
          · exact .inl (digits.isWordPart_of_mem (fun ch hch => Lexer.alphanum_of_baseDigit base hch) h)
  | decimal whole fraction exponent =>
      rcases List.mem_append.mp h with h | h
      · exact .inl (isWordPart_of_mem_digits whole h)
      · rcases List.mem_append.mp h with h | h
        · exact mem_fractionText h
        · exact mem_exponentText h
  | pointed fraction exponent =>
      rcases List.mem_cons.mp h with rfl | h
      · exact .inr (by decide)
      · rcases List.mem_append.mp h with h | h
        · exact .inl (isWordPart_of_mem_digits fraction h)
        · exact mem_exponentText h

/-- A number begins with a digit, or with a point and a digit. -/
theorem text_opens (n : Numeral) : ∃ c t, n.text = c :: t ∧
    (c.isAscii Char.isDigit = true ∨ c = .scalar '.' ∧ ∃ d u, t = d :: u ∧ d.isAscii Char.isDigit = true) := by
  cases n with
  | based base upper line digits => exact ⟨_, _, rfl, .inl (by decide)⟩
  | decimal whole fraction exponent => exact ⟨_, _, rfl, .inl whole.first.property⟩
  | pointed fraction exponent => exact ⟨_, _, rfl, .inr ⟨rfl, _, _, rfl, fraction.first.property⟩⟩

end Numeral

end ChatFlow
