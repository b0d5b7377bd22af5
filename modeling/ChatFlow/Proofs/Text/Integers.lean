import ChatFlow.Document.Check
import ChatFlow.Proofs.Double.Sums
import ChatFlow.Proofs.Text.Readings
import Mathlib.Data.List.TakeWhile

/-!
# Integers in texts

Three readers take a text for an integer: the one for integers and the one for doubles, which know the digits of all
scripts, and the one for documents, which knows ASCII digits and lets zeros stand behind a point. Where a text is an
integer for the first of them, it is the same integer for the second, if a double is equal to it, and for the third, if
that one reads it at all.

* `Text.toInteger?_cases`: a sign and digits are read as an integer, and nothing else is.
* `Text.toInteger?_ofInt`: the decimal text of an integer is read as it.
* `Text.toDouble?_of_toInteger?`: an integer is read as the double that is equal to it.
* `Check.groupedDigits?_cases`: groups of digits, and the number that they write.
* `Check.integerText?_eq_of_toInteger?`: the reader for documents reads the same integer.
-/

namespace ChatFlow

variable {t : Text} {m n : Int} {c : CodePoint}

/-! ## Marks -/

namespace NumeralMark

variable {marks joined : List NumeralMark}

/-- No sign is taken off that is none. -/
theorem mem_of_sign {mark : NumeralMark} (hmark : mark ≠ .other '-' ∧ mark ≠ .other '+') (h : mark ∈ marks) :
    mark ∈ (sign marks).2 := by
  unfold sign
  split
  · exact (List.mem_cons.mp h).resolve_left hmark.1
  · exact (List.mem_cons.mp h).resolve_left hmark.2
  · exact h

/-- Only low lines are taken out. -/
theorem mem_of_joinGroups? {afterDigit : Bool} {ch : Char} (hline : ch ≠ '_')
    (h : joinGroups? afterDigit marks = some joined) (hmem : .other ch ∈ marks) : .other ch ∈ joined := by
  have hother : NumeralMark.other ch ≠ .other '_' := fun hsame => hline (NumeralMark.other.inj hsame)
  -- by the recursion of `joinGroups?`: a low line is skipped with the digit behind it, all other marks stay
  induction afterDigit, marks using joinGroups?.induct generalizing joined with
  | case1 afterDigit => cases hmem
  | case2 d r ih =>
      rw [joinGroups?, if_pos rfl] at h
      obtain ⟨rest, hrest, rfl⟩ := Option.map_eq_some_iff.mp h
      have hbehind := (List.mem_cons.mp ((List.mem_cons.mp hmem).resolve_left hother)).resolve_left nofun
      exact List.mem_cons_of_mem _ (ih hrest hbehind)
  | case3 afterDigit d r hfirst =>
      rw [joinGroups?, if_neg hfirst] at h
      cases h
  | case4 afterDigit r hbehind =>
      rw [joinGroups?] at h
      · cases h
      · exact hbehind
  | case5 afterDigit d r ih =>
      rw [joinGroups?] at h
      obtain ⟨rest, hrest, rfl⟩ := Option.map_eq_some_iff.mp h
      exact List.mem_cons_of_mem _ (ih hrest ((List.mem_cons.mp hmem).resolve_left nofun))
  | case6 afterDigit c r hc ih =>
      rw [joinGroups?] at h
      · obtain ⟨rest, hrest, rfl⟩ := Option.map_eq_some_iff.mp h
        rcases List.mem_cons.mp hmem with hsame | hbehind
        · rw [hsame]
          exact List.mem_cons_self
        · exact List.mem_cons_of_mem _ (ih hrest hbehind)
      · exact hc

/-- The mark of a code point stands among those of a text with it. -/
theorem mem_of_mapM {mark : NumeralMark} (h : t.mapM ofCodePoint? = some marks) (hc : c ∈ t)
    (hmark : ofCodePoint? c = some mark) : mark ∈ marks := by
  induction t generalizing marks with
  | nil => cases hc
  | cons d t ih =>
      rw [List.mapM_cons] at h
      obtain ⟨first, hfirst, hrest⟩ := Option.bind_eq_some_iff.mp h
      obtain ⟨rest, hmarks, hall⟩ := Option.bind_eq_some_iff.mp hrest
      cases hall
      rcases List.mem_cons.mp hc with rfl | hbehind
      · rw [hmark] at hfirst
        cases hfirst
        exact List.mem_cons_self
      · exact List.mem_cons_of_mem _ (ih hmarks hbehind)

/-- Digits stay as they are, behind a digit, -/
theorem joinGroups?_ofDigits_append (t : Text) (marks : List NumeralMark) :
    joinGroups? true (ofDigits t ++ marks) = (joinGroups? true marks).map (ofDigits t ++ ·) := by
  induction t with
  | nil =>
      show joinGroups? true marks = (joinGroups? true marks).map fun joined => joined
      rw [Option.map_id']
  | cons c t ih =>
      show (joinGroups? true (ofDigits t ++ marks)).map _ = _
      rw [ih, Option.map_map]
      rfl

/-- and so do groups of them without the low lines between them. -/
theorem marks_of_groups {group : Text} {groups : List Text}
    (h : ∀ g ∈ group :: groups, g ≠ [] ∧ ∀ c ∈ g, Json.isDigit c = true) :
    ∃ d rest, (Text.join [.scalar '_'] (group :: groups)).mapM ofCodePoint? = some (.digit d :: rest) ∧
      ∀ afterDigit, joinGroups? afterDigit (.digit d :: rest) = some (ofDigits (group :: groups).flatten) := by
  induction groups generalizing group with
  | nil =>
      obtain ⟨hgroup, hdigits⟩ := h group List.mem_cons_self
      obtain ⟨c, t, rfl⟩ := List.exists_cons_of_ne_nil hgroup
      refine ⟨_, _, mapM_ofCodePoint?_of_digits hdigits, ?_⟩
      intro afterDigit
      rw [List.flatten_cons, List.flatten_nil, List.append_nil]
      exact joinGroups?_ofDigits afterDigit (c :: t)
  | cons next groups ih =>
      obtain ⟨⟨hgroup, hdigits⟩, hothers⟩ := List.forall_mem_cons.mp h
      obtain ⟨c, t, rfl⟩ := List.exists_cons_of_ne_nil hgroup
      obtain ⟨d, rest, hmarks, hjoined⟩ := ih hothers
      refine ⟨c.toNat - 0x30, ofDigits t ++ .other '_' :: .digit d :: rest, ?_, ?_⟩
      · have hline : ([.scalar '_'] : Text).mapM ofCodePoint? = some [.other '_'] := by decide +kernel
        have hjoin : Text.join [.scalar '_'] ((c :: t) :: next :: groups) =
            (c :: t) ++ [.scalar '_'] ++ Text.join [.scalar '_'] (next :: groups) := rfl
        rw [hjoin, List.mapM_append, List.mapM_append, mapM_ofCodePoint?_of_digits hdigits, hline, hmarks]
        show some ((ofDigits (c :: t) ++ [.other '_']) ++ .digit d :: rest) = _
        rw [List.append_assoc]
        rfl
      · intro afterDigit
        show (joinGroups? true (ofDigits t ++ .other '_' :: .digit d :: rest)).map _ = _
        -- a low line between digits goes, and they are read on
        have hbehind : joinGroups? true (.other '_' :: .digit d :: rest) =
            some (ofDigits (next :: groups).flatten) := by
          rw [joinGroups?, if_pos rfl]
          exact hjoined true
        rw [joinGroups?_ofDigits_append, hbehind, Option.map_some, Option.map_some, List.flatten_cons (l := c :: t),
          ofDigits, ofDigits, ofDigits, List.map_append]
        rfl

end NumeralMark

/-! ## The reader for integers -/

namespace Text

/-- What is read as an integer is a sign, or none, and digits. -/
theorem toInteger?_cases (h : t.toInteger? = some n) :
    ∃ marks negative rest count value, NumeralMark.ofText? t = some marks ∧
      NumeralMark.sign marks = (negative, rest) ∧ NumeralMark.digits 0 0 rest = (count, value, []) ∧ count ≠ 0 ∧
      n = if negative then -(value : Int) else value := by
  obtain ⟨marks, hmarks, h⟩ := Option.bind_eq_some_iff.mp h
  rcases hsign : NumeralMark.sign marks with ⟨negative, rest⟩
  rw [hsign] at h
  dsimp only at h
  split at h
  · next count value hdigits =>
      split at h
      · cases h
      · next hcount =>
          cases h
          exact ⟨marks, negative, rest, count, value, hmarks, hsign, hdigits, fun hnone => hcount (.inl hnone), rfl⟩
  · cases h

theorem isBlank_of_toInteger? (h : t.toInteger? = some n) : t.isBlank = false := by
  rw [Bool.eq_false_iff]
  intro hblank
  have htrim : t.trim = [] := by
    have hdrop : t.dropWhile (·.isBlank) = [] := List.dropWhile_eq_nil_iff.mpr (List.all_eq_true.mp hblank)
    rw [trim, trimBy, hdrop]
    rfl
  obtain ⟨marks, negative, rest, count, value, hmarks, hsign, hdigits, hcount, -⟩ := toInteger?_cases h
  rw [NumeralMark.ofText?, htrim] at hmarks
  cases hmarks
  cases hsign
  cases hdigits
  exact hcount rfl

/-- There is no point in it, behind which there might be zeros. -/
theorem point_notMem_of_toInteger? (h : t.toInteger? = some n) : .scalar '.' ∉ t.trim := by
  intro hpoint
  obtain ⟨joined, negative, rest, count, value, hjoined, hsign, hdigits, -⟩ := toInteger?_cases h
  obtain ⟨marks, hmarks, hgroups⟩ := Option.bind_eq_some_iff.mp hjoined
  have hmark : NumeralMark.ofCodePoint? (.scalar '.') = some (.other '.') := by decide +kernel
  have hmem := NumeralMark.mem_of_joinGroups? (by decide) hgroups (NumeralMark.mem_of_mapM hmarks hpoint hmark)
  have hrest : NumeralMark.other '.' ∈ rest := by
    have hbehind := NumeralMark.mem_of_sign (by decide) hmem
    rwa [hsign] at hbehind
  obtain ⟨d, hd⟩ := (NumeralMark.of_digits_eq hdigits).1 _ hrest
  cases hd

/-- It is read as the double that is equal to it. -/
theorem toDouble?_of_toInteger? (h : t.toInteger? = some n) (hexact : Double.Exact n) :
    ∃ x, t.toDouble? = some x ∧ x.whole? = some n := by
  obtain ⟨marks, negative, rest, count, value, hmarks, hsign, hdigits, hcount, rfl⟩ := toInteger?_cases h
  refine ⟨Double.ofDecimal negative value 0, ?_, ?_⟩
  · rw [toDouble?, hmarks, Option.bind_eq_bind, Option.bind_some, hsign]
    exact NumeralMark.double?_of_digits hdigits hcount negative
  · -- the sign does not matter for what a double holds exactly
    have hvalue : Double.Exact value := by
      obtain ⟨m, hm⟩ := hexact
      refine ⟨m, hm.trans ?_⟩
      cases negative with
      | false => rfl
      | true => exact congrArg (· * Double.unit) (Int.natAbs_neg value)
    rw [Double.ofDecimal_of_exact hvalue]
    cases negative with
    | false =>
        rw [if_neg Bool.false_ne_true, if_neg Bool.false_ne_true]
        exact hvalue.whole?_ofInt
    | true =>
        rw [if_pos (Eq.refl true), if_pos (Eq.refl true)]
        exact Double.whole?_neg hvalue.whole?_ofInt

/-- Digits that are not too many are read as the number that they write, behind a sign or none. -/
theorem toInteger?_of_marks {ds : Text} {marks : List NumeralMark} {negative : Bool}
    (hmarks : NumeralMark.ofText? t = some marks) (hsign : NumeralMark.sign marks = (negative, NumeralMark.ofDigits ds))
    (hds : ds ≠ []) (hshort : ds.length ≤ maxIntegerDigits) :
    t.toInteger? = some (if negative then -(Json.digitsValue ds : Int) else Json.digitsValue ds) := by
  have hcount : ¬ (ds.length = 0 ∨ maxIntegerDigits < ds.length) := by
    rintro (hnone | hmany)
    · exact hds (List.length_eq_zero_iff.mp hnone)
    · exact absurd hshort (Nat.not_le.mpr hmany)
  rw [toInteger?, hmarks, Option.bind_eq_bind, Option.bind_some, hsign]
  dsimp only
  rw [NumeralMark.digits_of_digits]
  exact if_neg hcount

theorem length_ofNat_le (h : integerTooLong n = false) : (ofNat n.natAbs).length ≤ maxIntegerDigits := by
  have hshort : ∀ k, 0 < k → n.natAbs < Nat.pow 10 k → (ofNat n.natAbs).length ≤ k := fun k hk hn =>
    (length_ofNat_le_iff hk).mpr hn
  rw [integerTooLong, decide_eq_false_iff_not, Nat.not_le] at h
  exact hshort maxIntegerDigits (by decide) h

/-- The decimal text of an integer is read as it, unless it is too long. -/
theorem toInteger?_ofInt (h : integerTooLong n = false) : (ofInt n).toInteger? = some n := by
  have hdigits := digits_ofNat n.natAbs
  unfold ofInt
  split
  · next hnegative =>
      have hunblank : ∀ c ∈ ("-" : Text) ++ ofNat n.natAbs, c.isBlank = false := by
        intro c hc
        rcases List.mem_append.mp hc with hminus | hdigit
        · rw [List.mem_singleton.mp hminus]
          decide +kernel
        · exact CodePoint.isBlank_of_digit (hdigits c hdigit)
      have htrim : (("-" : Text) ++ ofNat n.natAbs).trim = ("-" : Text) ++ ofNat n.natAbs :=
        trim_of_ends (fun c hc => hunblank c (List.mem_of_mem_head? hc))
          fun c hc => hunblank c (List.mem_of_getLast? hc)
      have hminus : ("-" : Text).mapM NumeralMark.ofCodePoint? = some [.other '-'] := by decide +kernel
      have hmarks : NumeralMark.ofText? (("-" : Text) ++ ofNat n.natAbs) =
          some (.other '-' :: NumeralMark.ofDigits (ofNat n.natAbs)) := by
        rw [NumeralMark.ofText?, htrim, List.mapM_append, hminus, NumeralMark.mapM_ofCodePoint?_of_digits hdigits]
        show (NumeralMark.joinGroups? false (NumeralMark.ofDigits _)).map _ = _
        rw [NumeralMark.joinGroups?_ofDigits]
        rfl
      rw [toInteger?_of_marks hmarks rfl (ofNat_ne_nil _) (length_ofNat_le h), if_pos (Eq.refl true),
        Json.digitsValue_ofNat, Int.ofNat_natAbs_of_nonpos (Int.le_of_lt hnegative), Int.neg_neg]
  · next hpositive =>
      rw [toInteger?_of_marks (NumeralMark.ofText?_of_digits hdigits) (NumeralMark.sign_ofDigits _) (ofNat_ne_nil _)
        (length_ofNat_le h), if_neg Bool.false_ne_true, Json.digitsValue_ofNat,
        Int.natAbs_of_nonneg (Int.not_lt.mp hpositive)]

end Text

/-! ## The reader for documents -/

theorem Json.isDigit_of_isAscii (h : c.isAscii Char.isDigit = true) : isDigit c = true := by
  cases c with
  | scalar c =>
      have hbounds : c.toNat < 128 ∧ 48 ≤ c.toNat ∧ c.toNat ≤ 57 := by
        simpa [CodePoint.isAscii, Char.isDigit, UInt32.le_iff_toNat_le] using h
      rw [isDigit, CodePoint.toNat, decide_eq_true hbounds.2.1, decide_eq_true hbounds.2.2]
      rfl
  | surrogate n => cases h

namespace Check

/-- The digit of a code point. -/
def digit? (c : CodePoint) : Option Nat := if c.isAscii Char.isDigit then some (c.toNat - 0x30) else none

theorem digits_of_mapM {ds : List Nat} (h : t.mapM digit? = some ds) :
    (∀ c ∈ t, Json.isDigit c = true) ∧ ds = t.map fun c => c.toNat - 0x30 := by
  induction t generalizing ds with
  | nil =>
      cases h
      exact ⟨nofun, rfl⟩
  | cons c t ih =>
      rw [List.mapM_cons] at h
      obtain ⟨d, hd, hrest⟩ := Option.bind_eq_some_iff.mp h
      obtain ⟨rest, hmore, hall⟩ := Option.bind_eq_some_iff.mp hrest
      cases hall
      obtain ⟨hdigits, rfl⟩ := ih hmore
      rw [digit?, Option.ite_none_right_eq_some] at hd
      obtain ⟨hascii, hvalue⟩ := hd
      cases hvalue
      exact ⟨List.forall_mem_cons.mpr ⟨Json.isDigit_of_isAscii hascii, hdigits⟩, rfl⟩

theorem length_flatten_le_join (sep : Text) (ts : List Text) : ts.flatten.length ≤ (Text.join sep ts).length := by
  induction ts with
  | nil => exact Nat.le_refl 0
  | cons t ts ih =>
      cases ts with
      | nil => simp [Text.join]
      | cons u ts =>
          have hjoin : Text.join sep (t :: u :: ts) = t ++ sep ++ Text.join sep (u :: ts) := rfl
          rw [hjoin, List.flatten_cons, List.length_append, List.length_append, List.length_append]
          omega

/-- Groups of digits are read with low lines between them. -/
theorem groupedDigits?_cases {k : Nat} (h : groupedDigits? t = some k) :
    ∃ group groups, t = Text.join [.scalar '_'] (group :: groups) ∧
      (∀ g ∈ group :: groups, g ≠ [] ∧ ∀ c ∈ g, Json.isDigit c = true) ∧
      k = Json.digitsValue (group :: groups).flatten := by
  unfold groupedDigits? at h
  dsimp only at h
  split at h
  · cases h
  · next hany =>
      obtain ⟨ds, hds, rfl⟩ := Option.map_eq_some_iff.mp h
      obtain ⟨hdigits, rfl⟩ := digits_of_mapM hds
      obtain ⟨group, groups, hparts⟩ := List.exists_cons_of_ne_nil (Text.splitChar_ne_nil (.scalar '_') t)
      have hjoin := Text.join_splitChar (.scalar '_') t
      rw [hparts] at hany hdigits hjoin ⊢
      refine ⟨group, groups, hjoin.symm, ?_, ?_⟩
      · intro g hg
        constructor
        · rintro rfl
          exact hany (List.any_eq_true.mpr ⟨[], hg, rfl⟩)
        · intro c hc
          exact hdigits c (List.mem_flatten.mpr ⟨g, hg, hc⟩)
      · -- the digits of all groups are folded as one number
        rw [List.foldl_map]
        rfl

/-- Groups of digits are marks of digits, with the low lines taken out. -/
theorem marks_of_groupedDigits? {k : Nat} (h : groupedDigits? t = some k) (hshort : t.length ≤ maxIntegerDigits) :
    ∃ d rest ds, t.mapM NumeralMark.ofCodePoint? = some (.digit d :: rest) ∧
      NumeralMark.joinGroups? false (.digit d :: rest) = some (NumeralMark.ofDigits ds) ∧ ds ≠ [] ∧
      ds.length ≤ maxIntegerDigits ∧ k = Json.digitsValue ds := by
  obtain ⟨group, groups, rfl, hgroups, hvalue⟩ := groupedDigits?_cases h
  obtain ⟨d, rest, hmarks, hjoined⟩ := NumeralMark.marks_of_groups hgroups
  refine ⟨d, rest, (group :: groups).flatten, hmarks, hjoined false, ?_, ?_, hvalue⟩
  · intro hnone
    exact (hgroups group List.mem_cons_self).1 (List.append_eq_nil_iff.mp hnone).1
  · exact Nat.le_trans (length_flatten_le_join _ _) hshort

/-- Groups of digits are read behind a sign, -/
theorem toInteger?_of_signed {sign : Char} (hsign : sign = '-' ∨ sign = '+') {r : Text} {k : Nat}
    (htrim : t.trim = .scalar sign :: r) (hgroups : groupedDigits? r = some k) (hshort : r.length ≤ maxIntegerDigits) :
    t.toInteger? = some (if sign = '-' then -(k : Int) else k) := by
  obtain ⟨d, rest, ds, hmarks, hjoined, hds, hlength, rfl⟩ := marks_of_groupedDigits? hgroups hshort
  have hmark : NumeralMark.ofCodePoint? (.scalar sign) = some (.other sign) := by
    rcases hsign with rfl | rfl <;> decide +kernel
  have htext : NumeralMark.ofText? t = some (.other sign :: NumeralMark.ofDigits ds) := by
    rw [NumeralMark.ofText?, htrim, List.mapM_cons, hmark, hmarks]
    show NumeralMark.joinGroups? false (.other sign :: .digit d :: rest) = _
    rw [NumeralMark.joinGroups?, hjoined]
    · rfl
    · rintro ⟨⟩
      rcases hsign with h | h <;> cases h
  rcases hsign with rfl | rfl
  · rw [Text.toInteger?_of_marks htext rfl hds hlength, if_pos (Eq.refl true), if_pos (Eq.refl '-')]
  · rw [Text.toInteger?_of_marks htext rfl hds hlength, if_neg Bool.false_ne_true, if_neg (by decide)]

/-- and without one. -/
theorem toInteger?_of_unsigned {k : Nat} (hgroups : groupedDigits? t.trim = some k)
    (hshort : t.trim.length ≤ maxIntegerDigits) : t.toInteger? = some (k : Int) := by
  obtain ⟨d, rest, ds, hmarks, hjoined, hds, hlength, rfl⟩ := marks_of_groupedDigits? hgroups hshort
  have htext : NumeralMark.ofText? t = some (NumeralMark.ofDigits ds) := by
    rw [NumeralMark.ofText?, hmarks, Option.bind_some, hjoined]
  rw [Text.toInteger?_of_marks htext (NumeralMark.sign_ofDigits ds) hds hlength, if_neg Bool.false_ne_true]

/-- Without a point there is nothing but groups of digits behind the sign. -/
theorem groupedDigits?_of_unpointed {r : Text} {f : Int → Int} (hpoint : .scalar '.' ∉ r)
    (h : (if (decide (maxIntegerDigits < r.length) ||
        !((Text.partition (.scalar '.') r).2.getD []).all fun c => decide (c = .scalar '0')) = true then none
      else ((groupedDigits? (Text.partition (.scalar '.') r).1).bind fun k => some (k : Int)).map f) = some n) :
    r.length ≤ maxIntegerDigits ∧ ∃ k : Nat, groupedDigits? r = some k ∧ n = f k := by
  rw [Text.partition_of_not_mem hpoint] at h
  simp only [Option.getD_none, List.all_nil, Bool.not_true, Bool.or_false, decide_eq_true_eq] at h
  split at h
  · cases h
  · next hlong =>
      obtain ⟨value, hvalue, rfl⟩ := Option.map_eq_some_iff.mp h
      obtain ⟨k, hgroups, hcast⟩ := Option.bind_eq_some_iff.mp hvalue
      cases hcast
      exact ⟨Nat.not_lt.mp hlong, k, hgroups, rfl⟩

/-- What the reader for documents takes for an integer, and has no point in it, the reader for integers takes for the
same one. -/
theorem toInteger?_of_integerText? (h : integerText? t = some n) (hpoint : .scalar '.' ∉ t.trim) :
    t.toInteger? = some n := by
  unfold integerText? at h
  dsimp only at h
  split at h
  · next r htrim =>
      have hbehind : .scalar '.' ∉ r := fun hmem => hpoint (htrim ▸ List.mem_cons_of_mem _ hmem)
      obtain ⟨hshort, k, hgroups, rfl⟩ := groupedDigits?_of_unpointed hbehind h
      exact toInteger?_of_signed (.inl rfl) htrim hgroups hshort
  · next r htrim =>
      have hbehind : .scalar '.' ∉ r := fun hmem => hpoint (htrim ▸ List.mem_cons_of_mem _ hmem)
      obtain ⟨hshort, k, hgroups, rfl⟩ := groupedDigits?_of_unpointed hbehind h
      exact toInteger?_of_signed (.inr rfl) htrim hgroups hshort
  · obtain ⟨hshort, k, hgroups, rfl⟩ := groupedDigits?_of_unpointed hpoint h
    exact toInteger?_of_unsigned hgroups hshort

/-- Where both take a text for an integer, it is the same one. -/
theorem integerText?_eq_of_toInteger? (h : integerText? t = some n) (hinteger : t.toInteger? = some m) : n = m := by
  have hsame := toInteger?_of_integerText? h (Text.point_notMem_of_toInteger? hinteger)
  rw [hinteger] at hsame
  exact (Option.some.inj hsame).symm

end Check

end ChatFlow
