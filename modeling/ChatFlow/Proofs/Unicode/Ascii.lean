import ChatFlow.Expr.Lexer

/-!
# Names of ASCII characters

The tables of names begin with ASCII: a name begins with a letter or the low line, and goes on with digits too. What the
lexer takes for a word before it looks at the tables is therefore all of a name.

* `Unicode.nameStartRuns_contains`, `Unicode.nameRestRuns_contains`: the tables on ASCII.
* `Text.isIdentifier_of_letters`: a word of letters is a name.
* `CodePoint.isWordPart_of_isNameRest`, `CodePoint.isWordStart_of_isNameStart`: the characters of names are those of
  words.
-/

namespace ChatFlow

namespace Unicode

variable {n : Nat}

set_option maxRecDepth 100000 in
/-- The first runs: up to `A`, the upper case letters, up to the low line, the low line, up to `a`, the lower case
letters, and what is left of ASCII. -/
theorem nameStartRuns_lengths : ∃ rest, nameStartRuns.lengths = 65 :: 26 :: 4 :: 1 :: 1 :: 26 :: 47 :: rest := by
  obtain ⟨cs, hcs⟩ : ∃ cs : List Char, nameStartRuns = .ofHex (String.ofList
      ('4' :: '1' :: ' ' :: '1' :: 'a' :: ' ' :: '4' :: ' ' :: '1' :: ' ' :: '1' :: ' ' :: '1' :: 'a' :: ' ' ::
        '2' :: 'f' :: ' ' :: cs)) := ⟨_, rfl⟩
  exact ⟨_, by rw [hcs, Runs.ofHex, Hex.naturals, Hex.words, String.toList_ofList]; rfl⟩

set_option maxRecDepth 100000 in
/-- The first runs, those of the digits among them. -/
theorem nameRestRuns_lengths :
    ∃ rest, nameRestRuns.lengths = 48 :: 10 :: 7 :: 26 :: 4 :: 1 :: 1 :: 26 :: 47 :: rest := by
  obtain ⟨cs, hcs⟩ : ∃ cs : List Char, nameRestRuns = .ofHex (String.ofList
      ('3' :: '0' :: ' ' :: 'a' :: ' ' :: '7' :: ' ' :: '1' :: 'a' :: ' ' :: '4' :: ' ' :: '1' :: ' ' :: '1' :: ' ' ::
        '1' :: 'a' :: ' ' :: '2' :: 'f' :: ' ' :: cs)) := ⟨_, rfl⟩
  exact ⟨_, by rw [hcs, Runs.ofHex, Hex.naturals, Hex.words, String.toList_ofList]; rfl⟩

theorem nameStartRuns_contains (h : n < 128) :
    nameStartRuns.contains n = true ↔ (65 ≤ n ∧ n ≤ 90) ∨ n = 95 ∨ (97 ≤ n ∧ n ≤ 122) := by
  obtain ⟨rest, hrest⟩ := nameStartRuns_lengths
  rw [Runs.contains, hrest]
  simp only [Runs.containsAux, Bool.not_false, Bool.not_true]
  grind

theorem nameRestRuns_contains (h : n < 128) :
    nameRestRuns.contains n = true ↔ (48 ≤ n ∧ n ≤ 57) ∨ (65 ≤ n ∧ n ≤ 90) ∨ n = 95 ∨ (97 ≤ n ∧ n ≤ 122) := by
  obtain ⟨rest, hrest⟩ := nameRestRuns_lengths
  rw [Runs.contains, hrest]
  simp only [Runs.containsAux, Bool.not_false, Bool.not_true]
  grind

end Unicode

namespace CodePoint

variable {c : CodePoint} {ch : Char}

theorem isAlpha_iff : ch.isAlpha = true ↔ (65 ≤ ch.toNat ∧ ch.toNat ≤ 90) ∨ (97 ≤ ch.toNat ∧ ch.toNat ≤ 122) := by
  have hcases : ch.isAlpha = (decide (65 ≤ ch.val ∧ ch.val ≤ 90) || (decide (97 ≤ ch.val) && decide (ch.val ≤ 122))) :=
    rfl
  simp only [hcases, Bool.or_eq_true, Bool.and_eq_true, decide_eq_true_eq, UInt32.le_iff_toNat_le]
  rfl

theorem isDigit_iff : ch.isDigit = true ↔ 48 ≤ ch.toNat ∧ ch.toNat ≤ 57 := by
  simp only [Char.isDigit, Bool.and_eq_true, decide_eq_true_eq, UInt32.le_iff_toNat_le, ge_iff_le]
  rfl

theorem eq_lowLine_iff : ch = '_' ↔ ch.toNat = 95 := by
  rw [← Char.toNat_inj]
  rfl

/-- An ASCII letter begins a name, and goes on with one. -/
theorem isNameStart_of_letter (h : c.isAscii Char.isAlpha = true) : c.isNameStart = true ∧ c.isNameRest = true := by
  cases c with
  | surrogate n => cases h
  | scalar ch =>
      simp only [isAscii, Bool.and_eq_true, decide_eq_true_eq, isAlpha_iff] at h
      rw [isNameStart, isNameRest, toNat, Unicode.nameStartRuns_contains h.1, Unicode.nameRestRuns_contains h.1]
      omega

theorem isWordPart_of_not_ascii (h : ¬ c.toNat < 128) : Lexer.isWordPart c = true := by
  rw [Lexer.isWordPart, Bool.or_eq_true]
  exact .inl (decide_eq_true (by omega))

/-- The characters of names are those of words. -/
theorem isWordPart_of_isNameRest (h : c.isNameRest = true) : Lexer.isWordPart c = true := by
  by_cases hascii : c.toNat < 128
  · rw [isNameRest, Unicode.nameRestRuns_contains hascii] at h
    cases c with
    | surrogate n => exact absurd hascii (by rw [toNat]; omega)
    | scalar ch =>
        have hpart : (ch.isAlphanum || ch == '_') = true := by
          rw [Char.isAlphanum, Bool.or_eq_true, Bool.or_eq_true, isAlpha_iff, isDigit_iff, beq_iff_eq, eq_lowLine_iff]
          rw [toNat] at h
          omega
        rw [Lexer.isWordPart, isAscii, hpart, Bool.and_true, Bool.or_eq_true]
        exact .inr (decide_eq_true hascii)
  · exact isWordPart_of_not_ascii hascii

theorem isWordStart_of_isNameStart (h : c.isNameStart = true) : Lexer.isWordStart c = true := by
  rw [Lexer.isWordStart, Bool.and_eq_true, Bool.not_eq_true']
  by_cases hascii : c.toNat < 128
  · rw [isNameStart, Unicode.nameStartRuns_contains hascii] at h
    refine ⟨isWordPart_of_isNameRest ?_, ?_⟩
    · rw [isNameRest, Unicode.nameRestRuns_contains hascii]
      omega
    · cases c with
      | surrogate n => rfl
      | scalar ch =>
          rw [isAscii, Bool.and_eq_false_iff, ← Bool.not_eq_true ch.isDigit, isDigit_iff]
          rw [toNat] at h
          omega
  · refine ⟨isWordPart_of_not_ascii hascii, ?_⟩
    cases c with
    | surrogate n => rfl
    | scalar ch =>
        rw [toNat] at hascii
        rw [isAscii, decide_eq_false hascii, Bool.false_and]

end CodePoint

/-- A word of ASCII letters is a name. -/
theorem Text.isIdentifier_of_letters {c : CodePoint} {w : Text} (h : (c :: w).all (·.isAscii Char.isAlpha) = true) :
    Text.isIdentifier (c :: w) = true := by
  rw [List.all_cons, Bool.and_eq_true, List.all_eq_true] at h
  rw [Text.isIdentifier, Bool.and_eq_true, List.all_eq_true]
  exact ⟨(CodePoint.isNameStart_of_letter h.1).1, fun d hd => (CodePoint.isNameStart_of_letter (h.2 d hd)).2⟩

end ChatFlow
