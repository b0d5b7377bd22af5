import ChatFlow.Json.Reader
import Mathlib.Data.List.Chain

/-!
# Strings that are written and read

A string that is written code point by code point is read in the same way. A format that escapes everything
outside ASCII writes a leading surrogate with a trailing one behind it as it writes one code point above U+FFFF, and
so it does not tell such strings from others.

* `Json.Style.Tells`: a format that tells a string from all others.
* `Json.Escaped`: the forms of what is written for a code point; `Json.string?_escape` says how it is read.
* `Json.string?_quoted`: a string up to its closing quote.
-/

namespace ChatFlow

theorem CodePoint.toNat_lt (c : CodePoint) : c.toNat < 0x110000 := by
  cases c with
  | scalar c =>
      rcases c.valid with h | h
      · exact Nat.lt_trans h (by decide)
      · exact h.2
  | surrogate n =>
      show 0xD800 + n.val < 0x110000
      omega

namespace Json

variable {style : Style} {r : Text}

/-! ## Escapes -/

theorem hex?_hexDigit : ∀ d < 16, (CodePoint.scalar (hexDigit d)).hex? = some d := by decide

theorem unit?_escapeUnit {n : Nat} (hn : n < 65536) (r : Text) :
    unit? (((escapeUnit n).drop 2) ++ r) = some (n, r) := by
  have hdigits : (escapeUnit n).drop 2 = [n / 4096, n / 256, n / 16, n].map fun d =>
    CodePoint.scalar (hexDigit (d % 16)) := rfl
  have hhex : ∀ d, (CodePoint.scalar (hexDigit (d % 16))).hex? = some (d % 16) := fun d =>
    hex?_hexDigit _ (Nat.mod_lt _ (by decide))
  have hvalue : ((n / 4096 % 16 * 16 + n / 256 % 16) * 16 + n / 16 % 16) * 16 + n % 16 = n := by omega
  rw [hdigits]
  simp [unit?, hhex, hvalue]

/-- No trailing surrogate is escaped at the beginning of the text. -/
def NoTrailing (r : Text) : Prop :=
  ∀ r', r = .scalar '\\' :: .scalar 'u' :: r' → ∃ m r'', unit? r' = some (m, r'') ∧ isTrailing m = false

theorem noTrailing_cons {c : CodePoint} (hc : c ≠ .scalar '\\') (r : Text) : NoTrailing (c :: r) := by
  intro r' h
  exact absurd (List.cons.inj h).1 hc

theorem noTrailing_unit {n : Nat} (hn : n < 65536) (htrailing : isTrailing n = false) (r : Text) :
    NoTrailing (escapeUnit n ++ r) := by
  intro r' h
  obtain rfl : (escapeUnit n).drop 2 ++ r = r' := (List.cons.inj (List.cons.inj h).2).2
  exact ⟨n, r, unit?_escapeUnit hn r, htrailing⟩

/-- A code point stands for itself, unless it is a leading surrogate and belongs to the trailing one behind it. -/
theorem escapedPoint?_single {n : Nat} (h : isLeading n = true → NoTrailing r) :
    escapedPoint? n r = some (.ofNat n, r) := by
  unfold escapedPoint?
  split
  · next r' =>
      by_cases hn : isLeading n = true
      · obtain ⟨m, r'', hunit, htrailing⟩ := h hn r' rfl
        simp [hn, hunit, htrailing]
      · rw [if_neg hn]
  · rfl

theorem escapedPoint?_pair {n m : Nat} (hn : isLeading n = true) (hm : isTrailing m = true) (r : Text) :
    escapedPoint? n (escapeUnit m ++ r) = some (.ofNat (0x10000 + (n - 0xD800) * 0x400 + (m - 0xDC00)), r) := by
  have hsmall : m < 65536 := by
    simp only [isTrailing, Bool.and_eq_true, decide_eq_true_eq] at hm
    omega
  have hunit := unit?_escapeUnit hsmall r
  show (if isLeading n = true then (unit? ((escapeUnit m).drop 2 ++ r)).bind fun found =>
    if isTrailing found.1 = true then some (CodePoint.ofNat (0x10000 + (n - 0xD800) * 0x400 + (found.1 - 0xDC00)),
      found.2) else some (.ofNat n, escapeUnit m ++ r) else some (.ofNat n, escapeUnit m ++ r)) = _
  rw [if_pos hn, hunit, Option.bind_some, if_pos hm]

/-! ## Strings -/

/-- A code point before a string that is read. -/
def before (c : CodePoint) (found : Option (Text × Text)) : Option (Text × Text) :=
  found.map fun (t, r) => (c :: t, r)

theorem string?_short {fuel : Nat} {e p : CodePoint} (hunit : e ≠ .scalar 'u')
    (hshort : shortEscape? e = some p) :
    string? (fuel + 1) (.scalar '\\' :: e :: r) = before p (string? fuel r) := by
  rw [string?]
  simp only [hunit, hshort, if_false]
  cases string? fuel r with
  | none => rfl
  | some found => rfl

theorem string?_escapeUnit (fuel : Nat) {n : Nat} (hn : n < 65536) :
    string? (fuel + 1) (escapeUnit n ++ r) =
      (escapedPoint? n r).bind fun found => before found.1 (string? fuel found.2) := by
  have hunit := unit?_escapeUnit hn r
  show ((unit? ((escapeUnit n).drop 2 ++ r)).bind fun found => (escapedPoint? found.1 found.2).bind fun found =>
    (string? fuel found.2).bind fun rest => some (found.1 :: rest.1, rest.2)) = _
  rw [hunit, Option.bind_some]
  rcases escapedPoint? n r with _ | ⟨p, r'⟩
  · rfl
  · rw [Option.bind_some, Option.bind_some]
    cases string? fuel r' with
    | none => rfl
    | some found => rfl

theorem string?_plain (fuel : Nat) {c : CodePoint} (hquote : c ≠ .scalar '"')
    (hbackslash : c ≠ .scalar '\\') (hcontrol : ¬ c.toNat < 0x20) :
    string? (fuel + 1) (c :: r) = before c (string? fuel r) := by
  rw [string?.eq_def]
  simp only [hquote, hbackslash, hcontrol, if_false]
  cases string? fuel r with
  | none => rfl
  | some found => rfl

/-! ## What is written for a code point -/

/-- The forms of what is written for a code point: a short escape, one escape or two, or the code point itself. -/
inductive Escaped (style : Style) (c : CodePoint) : Text → Prop where
  | short {e : CodePoint} (hunit : e ≠ .scalar 'u') (hshort : shortEscape? e = some c) :
      Escaped style c [.scalar '\\', e]
  | single (hsmall : c.toNat < 65536) (hstyle : isLeading c.toNat = true → style.ascii = true) :
      Escaped style c (escapeUnit c.toNat)
  | pair (hlarge : 65536 ≤ c.toNat) :
      Escaped style c (escapeUnit (0xD800 + (c.toNat - 0x10000) / 0x400) ++
        escapeUnit (0xDC00 + (c.toNat - 0x10000) % 0x400))
  | plain (hquote : c ≠ .scalar '"') (hbackslash : c ≠ .scalar '\\') (hcontrol : ¬ c.toNat < 0x20) :
      Escaped style c [c]

theorem escaped_escape (style : Style) (c : CodePoint) : Escaped style c (escape style c) := by
  have hshort : ∀ {e : CodePoint} {n : Nat}, c.toNat = n → e ≠ .scalar 'u' →
      shortEscape? e = some (.ofNat n) → Escaped style c [.scalar '\\', e] := by
    rintro e _ rfl hunit hescape
    rw [CodePoint.ofNat_toNat] at hescape
    exact .short hunit hescape
  unfold escape
  by_cases hquote : c = .scalar '"'
  · rw [if_pos hquote]
    exact hshort (congrArg CodePoint.toNat hquote) (by decide) (by decide)
  rw [if_neg hquote]
  by_cases hbackslash : c = .scalar '\\'
  · rw [if_pos hbackslash]
    exact hshort (congrArg CodePoint.toNat hbackslash) (by decide) (by decide)
  rw [if_neg hbackslash]
  by_cases hfeed : c.toNat = 0x0A
  · rw [if_pos hfeed]
    exact hshort hfeed (by decide) (by decide)
  rw [if_neg hfeed]
  by_cases hreturn : c.toNat = 0x0D
  · rw [if_pos hreturn]
    exact hshort hreturn (by decide) (by decide)
  rw [if_neg hreturn]
  by_cases htab : c.toNat = 0x09
  · rw [if_pos htab]
    exact hshort htab (by decide) (by decide)
  rw [if_neg htab]
  by_cases hpage : c.toNat = 0x0C
  · rw [if_pos hpage]
    exact hshort hpage (by decide) (by decide)
  rw [if_neg hpage]
  by_cases hback : c.toNat = 0x08
  · rw [if_pos hback]
    exact hshort hback (by decide) (by decide)
  rw [if_neg hback]
  by_cases hcontrol : c.toNat < 0x20
  · rw [if_pos hcontrol]
    refine .single (by omega) fun hleading => ?_
    simp only [isLeading, Bool.and_eq_true, decide_eq_true_eq] at hleading
    omega
  rw [if_neg hcontrol]
  by_cases houtside : (style.ascii && decide (0x7F ≤ c.toNat)) = true
  · rw [if_pos houtside]
    split
    · exact .plain hquote hbackslash hcontrol
    split
    · next hsmall => exact .single hsmall fun _ => (Bool.and_eq_true _ _ ▸ houtside).1
    · next hlarge => exact .pair (Nat.not_lt.mp hlarge)
  · rw [if_neg houtside]
    exact .plain hquote hbackslash hcontrol

/-- What is written for a code point is read as it, in front of what a leading surrogate does not belong to. -/
theorem string?_escape (fuel : Nat) (c : CodePoint) {r : Text}
    (hr : style.ascii = true → isLeading c.toNat = true → NoTrailing r) :
    string? (fuel + 1) (escape style c ++ r) = before c (string? fuel r) := by
  have hpoint : CodePoint.ofNat c.toNat = c := CodePoint.ofNat_toNat c
  generalize hwritten : escape style c = written
  have hescaped := escaped_escape style c
  rw [hwritten] at hescaped
  cases hescaped with
  | short hunit hshort => exact string?_short hunit hshort
  | single hsmall hstyle =>
      have hrest : isLeading c.toNat = true → NoTrailing r := fun hleading => hr (hstyle hleading) hleading
      rw [string?_escapeUnit fuel hsmall, escapedPoint?_single hrest, Option.bind_some, hpoint]
  | pair hlarge =>
      have hbound := CodePoint.toNat_lt c
      have hleading : isLeading (0xD800 + (c.toNat - 0x10000) / 0x400) = true := by
        simp only [isLeading, Bool.and_eq_true, decide_eq_true_eq]
        omega
      have htrailing : isTrailing (0xDC00 + (c.toNat - 0x10000) % 0x400) = true := by
        simp only [isTrailing, Bool.and_eq_true, decide_eq_true_eq]
        omega
      have hvalue : 0x10000 + (0xD800 + (c.toNat - 0x10000) / 0x400 - 0xD800) * 0x400 +
          (0xDC00 + (c.toNat - 0x10000) % 0x400 - 0xDC00) = c.toNat := by omega
      rw [List.append_assoc, string?_escapeUnit fuel (by omega), escapedPoint?_pair hleading htrailing,
        Option.bind_some, hvalue, hpoint]
  | plain hquote hbackslash hcontrol => exact string?_plain fuel hquote hbackslash hcontrol

/-- Only a trailing surrogate is written as one. -/
theorem noTrailing_escape {c : CodePoint} (hc : isTrailing c.toNat = false) (r : Text) :
    NoTrailing (escape style c ++ r) := by
  generalize hwritten : escape style c = written
  have hescaped := escaped_escape style c
  rw [hwritten] at hescaped
  cases hescaped with
  | short hunit hshort =>
      intro r' h
      exact absurd (List.cons.inj (List.cons.inj h).2).1 hunit
  | single hsmall hstyle => exact noTrailing_unit hsmall hc r
  | pair hlarge =>
      have hbound := CodePoint.toNat_lt c
      rw [List.append_assoc]
      refine noTrailing_unit (by omega) ?_ _
      simp only [isTrailing, Bool.and_eq_false_iff, decide_eq_false_iff_not]
      omega
  | plain hquote hbackslash hcontrol => exact noTrailing_cons hbackslash r

/-! ## Quoted strings -/

/-- The format tells the string from all others: it does not escape what is outside ASCII, or no leading surrogate
stands right before a trailing one. -/
def Style.Tells (style : Style) (t : Text) : Prop :=
  style.ascii = true → t.IsChain fun c d => isLeading c.toNat = true → isTrailing d.toNat = false

theorem Style.tells_of_ascii (h : style.ascii = false) (t : Text) : style.Tells t := by
  intro hascii
  rw [h] at hascii
  cases hascii

/-- A string is read up to the quote that closes it. -/
theorem string?_quoted {fuel : Nat} {t : Text} (htells : style.Tells t) (hfuel : t.length < fuel) (r : Text) :
    string? fuel (t.flatMap (escape style) ++ .scalar '"' :: r) = some (t, r) := by
  induction t generalizing fuel with
  | nil =>
      obtain ⟨fuel, rfl⟩ : ∃ f, fuel = f + 1 := ⟨fuel - 1, by simp at hfuel; omega⟩
      rfl
  | cons c t ih =>
      obtain ⟨fuel, rfl⟩ : ∃ f, fuel = f + 1 := ⟨fuel - 1, by simp at hfuel; omega⟩
      have hlength : t.length < fuel := by simpa using hfuel
      have hrest := ih (fun hascii => (htells hascii).of_cons) hlength
      have hbehind : style.ascii = true → isLeading c.toNat = true →
          NoTrailing (t.flatMap (escape style) ++ .scalar '"' :: r) := by
        intro hascii hleading
        cases t with
        | nil => exact noTrailing_cons (by decide) r
        | cons d t =>
            rw [List.flatMap_cons, List.append_assoc]
            exact noTrailing_escape ((List.isChain_cons_cons.mp (htells hascii)).1 hleading) _
      rw [List.flatMap_cons, List.append_assoc, string?_escape fuel c hbehind, hrest]
      rfl

end Json

end ChatFlow
