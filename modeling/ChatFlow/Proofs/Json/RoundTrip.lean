import ChatFlow.Proofs.Json.Documents
import ChatFlow.Proofs.Json.Strings

/-!
# Documents that are written and read

What is written of a value is read as that value, as long as a document can hold it. Formats differ in line
breaks only, which are gaps to the reader.

* `Json.ReadsBack`: what is written of a value is read as it, whatever stands behind it.
* `Json.read?_text`: whole documents.
-/

namespace ChatFlow

namespace Json

variable {style : Style} {r blanks : Text} {fuel : Nat}

/-! ## Gaps -/

/-- Nothing but blanks. -/
def Gap (t : Text) : Prop := ∀ c ∈ t, isGap c = true

theorem skipGap_append (hblanks : Gap blanks) (r : Text) : skipGap (blanks ++ r) = skipGap r :=
  List.dropWhile_append_of_pos hblanks

theorem skipGap_of_head {c : CodePoint} (hc : isGap c = false) (r : Text) :
    skipGap (c :: r) = c :: r := by
  simp [skipGap, hc]

theorem gap_lineBreak (style : Style) (depth : Nat) : Gap (style.lineBreak depth) := by
  unfold Style.lineBreak
  intro c hc
  split at hc
  · cases hc
  · rcases List.mem_cons.mp hc with rfl | hblank
    · rfl
    · rw [List.eq_of_mem_replicate hblank]
      rfl

/-- A separator is a comma with a gap behind it. -/
theorem separator_eq (style : Style) (depth : Nat) :
    ∃ blanks, style.separator depth = .scalar ',' :: blanks ∧ Gap blanks := by
  unfold Style.separator
  split
  · exact ⟨[.scalar ' '], rfl, by simp [Gap, isGap]⟩
  · exact ⟨style.lineBreak depth, rfl, gap_lineBreak style depth⟩

theorem Ends.of_head {c : CodePoint}
    (hc : isDigit c = false ∧ c ≠ .scalar '.' ∧ c ≠ .scalar 'e' ∧ c ≠ .scalar 'E') (r : Text) :
    Ends (c :: r) := by
  rintro x ⟨⟩
  exact hc

theorem Ends.gap (hblanks : Gap blanks) (hr : Ends r) : Ends (blanks ++ r) := by
  cases blanks with
  | nil => exact hr
  | cons c blanks =>
      have hblank : isGap c = true := hblanks c List.mem_cons_self
      refine Ends.of_head ?_ _
      simp only [isGap, Bool.or_eq_true, beq_iff_eq] at hblank
      rcases hblank with ((rfl | rfl) | rfl) | rfl
      all_goals decide

theorem Ends.separator (style : Style) (depth : Nat) (r : Text) : Ends (style.separator depth ++ r) := by
  obtain ⟨blanks, hseparator, -⟩ := separator_eq style depth
  rw [hseparator]
  exact Ends.of_head (by decide) _

/-! ## Single values -/

/-- What is written of a value is read as it, in front of anything that does not go on with a number. -/
def ReadsBack (style : Style) (v : Value) : Prop :=
  ∀ depth fuel r, Ends r → (textAt style depth v).length < fuel →
    value? fuel (textAt style depth v ++ r) = some (v, r)

theorem ne_of_isDigit {c d : CodePoint} (hc : isDigit c = true) (hd : isDigit d = false) : d ≠ c := by
  rintro rfl
  rw [hc] at hd
  cases hd

/-- A text that begins with no word. -/
theorem word?_none {t : Text} (h : ∀ w ∈ words, w.1.isPrefixOf t = false) : word? t = none := by
  have hfind : words.find? (fun w => w.1.isPrefixOf t) = none := by
    refine List.find?_eq_none.mpr ?_
    intro w hw
    rw [h w hw]
    decide
  exact congrArg (Option.map fun w => (w.2, t.drop w.1.length)) hfind

/-- No word has a digit in one of its first two places. -/
theorem words_begin : ∀ w ∈ words, ∃ a b t, w.1 = a :: b :: t ∧ isDigit a = false ∧ isDigit b = false := by
  have hplaces : ∀ w ∈ words, 2 ≤ w.1.length ∧ ∀ c ∈ w.1.take 2, isDigit c = false := by decide
  intro w hw
  obtain ⟨hlength, hdigits⟩ := hplaces w hw
  rcases hword : w.1 with _ | ⟨a, _ | ⟨b, t⟩⟩
  · simp [hword] at hlength
  · simp [hword] at hlength
  · rw [hword] at hdigits
    exact ⟨a, b, t, rfl, hdigits a (by simp), hdigits b (by simp)⟩

theorem word?_digit {c : CodePoint} (hc : isDigit c = true) (r : Text) : word? (c :: r) = none := by
  refine word?_none ?_
  intro w hw
  obtain ⟨a, b, t, hword, ha, -⟩ := words_begin w hw
  have hne : (a == c) = false := beq_eq_false_iff_ne.mpr (ne_of_isDigit hc ha)
  rw [hword, List.isPrefixOf_cons_cons, hne, Bool.false_and]

theorem word?_minus {c : CodePoint} (hc : isDigit c = true) (r : Text) :
    word? (.scalar '-' :: c :: r) = none := by
  refine word?_none ?_
  intro w hw
  obtain ⟨a, b, t, hword, -, hb⟩ := words_begin w hw
  have hne : (b == c) = false := beq_eq_false_iff_ne.mpr (ne_of_isDigit hc hb)
  rw [hword, List.isPrefixOf_cons_cons, List.isPrefixOf_cons_cons, hne, Bool.false_and, Bool.and_false]

/-- A value that begins with a digit is a number. -/
theorem value?_digit {c : CodePoint} (hc : isDigit c = true) (fuel : Nat) (r : Text) :
    value? (fuel + 1) (c :: r) = number? false (c :: r) := by
  rw [value?.eq_def]
  dsimp only
  split
  · next h => exact absurd (List.cons.inj h).1.symm (ne_of_isDigit hc (by decide))
  · next h => exact absurd (List.cons.inj h).1.symm (ne_of_isDigit hc (by decide))
  · next h => exact absurd (List.cons.inj h).1.symm (ne_of_isDigit hc (by decide))
  · rw [word?_digit hc]
    dsimp only
    split
    · next h => exact absurd (List.cons.inj h).1.symm (ne_of_isDigit hc (by decide))
    · rfl

/-- So is one that begins with a minus and a digit. -/
theorem value?_minus {c : CodePoint} (hc : isDigit c = true) (fuel : Nat) (r : Text) :
    value? (fuel + 1) (.scalar '-' :: c :: r) = number? true (c :: r) := by
  rw [value?.eq_def]
  simp only [word?_minus hc]
  rfl

/-- A sign before digits is read with them. -/
theorem value?_signed {t r : Text} {v : Bool → Value} {c : CodePoint} (hhead : t.head? = some c)
    (hc : isDigit c = true) (hnumber : ∀ s, number? s (t ++ r) = some (v s, r)) (s : Bool)
    (hfuel : 0 < fuel) : value? fuel (Double.signed s t ++ r) = some (v s, r) := by
  obtain ⟨fuel, rfl⟩ : ∃ f, fuel = f + 1 := ⟨fuel - 1, by omega⟩
  obtain ⟨rest, rfl⟩ : ∃ rest, t = c :: rest := List.head?_eq_some_iff.mp hhead
  cases s with
  | false =>
      rw [← hnumber false]
      exact value?_digit hc fuel (rest ++ r)
  | true =>
      rw [← hnumber true]
      exact value?_minus hc fuel (rest ++ r)

theorem head_ofNat (n : Nat) : ∃ c, (Text.ofNat n).head? = some c ∧ isDigit c = true := by
  cases hdigits : Text.ofNat n with
  | nil => exact absurd hdigits (Text.ofNat_ne_nil n)
  | cons c ds => exact ⟨c, rfl, Text.isDigit_of_mem_ofNat (hdigits ▸ List.mem_cons_self)⟩

/-- The text of a decimal begins with a digit in each of its forms. -/
theorem head_decimalText (d : Decimal) :
    ∃ c, (Double.decimalText d).head? = some c ∧ isDigit c = true := by
  obtain ⟨c, hhead, hc⟩ := head_ofNat d.digits
  obtain ⟨ds, hds⟩ := List.head?_eq_some_iff.mp hhead
  unfold Double.decimalText
  dsimp only
  rw [hds]
  split
  · refine ⟨c, ?_, hc⟩
    cases ds with
    | nil => rfl
    | cons c' ds => rfl
  · split
    · exact ⟨.scalar '0', rfl, by decide⟩
    · split
      · exact ⟨c, rfl, hc⟩
      · next hmany =>
          -- at least one digit stands before the point
          obtain ⟨k, hk⟩ : ∃ k, (((c :: ds).length : Int) + d.exponent).toNat = k + 1 :=
            ⟨(((c :: ds).length : Int) + d.exponent).toNat - 1, by omega⟩
          rw [hk]
          exact ⟨c, rfl, hc⟩

theorem readsBack_int {n : Int} (hn : integerTooLong n = false) : ReadsBack style (.int n) := by
  intro depth fuel r hr hfuel
  have hsmall : n.natAbs < 10 ^ maxIntegerDigits := by
    rw [integerTooLong, decide_eq_false_iff_not, Nat.not_le] at hn
    exact hn
  obtain ⟨c, hhead, hc⟩ := head_ofNat n.natAbs
  have hroom : 0 < fuel := by omega
  have hsigned := value?_signed hhead hc (fun s => number?_ofNat s hsmall hr) (n < 0 : Bool) hroom
  have htext : textAt style depth (.int n) = Double.signed (n < 0 : Bool) (Text.ofNat n.natAbs) := by
    simp only [textAt, Text.ofInt, Double.signed, decide_eq_true_eq]
  have hvalue : (if (n < 0 : Bool) then -(n.natAbs : Int) else (n.natAbs : Int)) = n := by
    by_cases hneg : n < 0
    · rw [if_pos (decide_eq_true hneg)]
      omega
    · rw [if_neg fun hneg' => hneg (of_decide_eq_true hneg')]
      omega
  rw [htext, hsigned, hvalue]

theorem number?_zero {negative : Bool} (hr : Ends r) :
    number? negative (("0.0" : Text) ++ r) = some (.float (Double.signedZero negative), r) := by
  have hplaces : ∀ c ∈ ([.scalar '0'] : Text), isDigit c = true := by decide
  have hnumber := number?_fraction negative (.ofNat 0) hplaces (by decide) hr.noDigit
  rw [exponent_none fun c hc => (hr c hc).2.2] at hnumber
  exact hnumber

theorem shortest_ne_zero {m : Magnitude} (hm : m.quanta ≠ 0) : m.shortest.digits ≠ 0 := by
  intro hzero
  have hread := Double.ofDecimal_shortest false m
  rw [hzero, Double.ofDecimal, if_pos rfl] at hread
  cases hread
  exact hm rfl

theorem readsBack_float (x : Double) : ReadsBack style (.float x) := by
  intro depth fuel r hr hfuel
  have hpos : 0 < fuel := by omega
  cases x with
  | nan =>
      obtain ⟨fuel, rfl⟩ : ∃ f, fuel = f + 1 := ⟨fuel - 1, by omega⟩
      rfl
  | infinite s =>
      obtain ⟨fuel, rfl⟩ : ∃ f, fuel = f + 1 := ⟨fuel - 1, by omega⟩
      cases s with
      | false => rfl
      | true => rfl
  | finite s m =>
      show value? fuel (Double.signed s _ ++ r) = _
      -- the digits of zero are not searched for
      by_cases hm : m.quanta = 0
      · rw [if_pos hm]
        have hzero : m = default := Magnitude.eq_of_quanta hm
        rw [hzero]
        exact value?_signed (t := ("0.0" : Text)) (v := fun s => .float (Double.signedZero s)) rfl (by decide)
          (fun s => number?_zero hr) s hpos
      · rw [if_neg hm]
        obtain ⟨c, hhead, hc⟩ := head_decimalText m.shortest
        have hnumber : ∀ s, number? s (Double.decimalText m.shortest ++ r) =
            some (.float (.finite s m), r) := by
          intro s
          rw [number?_decimalText (shortest_ne_zero hm) hr, Double.ofDecimal_shortest]
        exact value?_signed hhead hc hnumber s hpos

theorem length_flatMap_escape (style : Style) (t : Text) : t.length ≤ (t.flatMap (escape style)).length := by
  have hescape : ∀ c, 1 ≤ (escape style c).length := by
    intro c
    unfold escape
    dsimp only
    repeat' split
    all_goals simp [escapeUnit, Text.ofString]
  induction t with
  | nil => exact Nat.le_refl _
  | cons c t ih =>
      have hc := hescape c
      rw [List.flatMap_cons, List.length_append, List.length_cons]
      omega

/-- A string in quotes is read up to the quote that closes it. -/
theorem string?_of_quoted {t : Text} (htells : style.Tells t) (r : Text) :
    ∃ rest, quoted style t ++ r = .scalar '"' :: rest ∧ string? (rest.length + 1) rest = some (t, r) := by
  refine ⟨t.flatMap (escape style) ++ .scalar '"' :: r, by simp [quoted], ?_⟩
  refine string?_quoted htells ?_ r
  have hlength := length_flatMap_escape style t
  rw [List.length_append]
  omega

theorem readsBack_text {t : Text} (htells : style.Tells t) : ReadsBack style (.text t) := by
  intro depth fuel r hr hfuel
  obtain ⟨fuel, rfl⟩ : ∃ f, fuel = f + 1 := ⟨fuel - 1, by omega⟩
  obtain ⟨rest, hrest, hstring⟩ := string?_of_quoted htells r
  rw [textAt, hrest]
  show ((string? (rest.length + 1) rest).bind fun found => some (Value.text found.1, found.2)) = _
  rw [hstring]
  rfl

/-! ## Lists and objects -/

/-- The text of a value begins with neither a blank nor a closing bracket. -/
theorem head_textAt (style : Style) (depth : Nat) (v : Value) :
    ∃ c, (textAt style depth v).head? = some c ∧ isGap c = false ∧ c ≠ .scalar ']' := by
  have hdigit : ∀ {c}, isDigit c = true → isGap c = false ∧ c ≠ .scalar ']' := by
    intro c hc
    have hne : ∀ d, isDigit d = false → (c == d) = false := fun d hd =>
      beq_eq_false_iff_ne.mpr (ne_of_isDigit hc hd).symm
    refine ⟨?_, (ne_of_isDigit hc (by decide)).symm⟩
    simp only [isGap, hne _ (by decide : isDigit (.scalar ' ') = false),
      hne _ (by decide : isDigit (.scalar '\t') = false), hne _ (by decide : isDigit (.scalar '\n') = false),
      hne _ (by decide : isDigit (.scalar '\r') = false), Bool.or_self]
  have hsigned : ∀ (s : Bool) {t : Text}, (∃ c, t.head? = some c ∧ isDigit c = true) →
      ∃ c, (Double.signed s t).head? = some c ∧ isGap c = false ∧ c ≠ .scalar ']' := by
    rintro s t ⟨c, hhead, hc⟩
    cases s with
    | false => exact ⟨c, hhead, hdigit hc⟩
    | true => exact ⟨.scalar '-', rfl, by decide⟩
  cases v with
  | null => exact ⟨.scalar 'n', rfl, by decide⟩
  | bytes _ => exact ⟨.scalar 'n', rfl, by decide⟩
  | text t => exact ⟨.scalar '"', rfl, by decide⟩
  | bool b =>
      cases b with
      | false => exact ⟨.scalar 'f', rfl, by decide⟩
      | true => exact ⟨.scalar 't', rfl, by decide⟩
  | int n =>
      have hint := hsigned (n < 0 : Bool) (head_ofNat n.natAbs)
      simpa only [textAt, Text.ofInt, Double.signed, decide_eq_true_eq] using hint
  | float x =>
      cases x with
      | nan => exact ⟨.scalar 'N', rfl, by decide⟩
      | infinite s =>
          cases s with
          | false => exact ⟨.scalar 'I', rfl, by decide⟩
          | true => exact ⟨.scalar '-', rfl, by decide⟩
      | finite s m =>
          refine hsigned s ?_
          split
          · exact ⟨.scalar '0', rfl, by decide⟩
          · exact head_decimalText m.shortest
  | list items =>
      cases items with
      | nil => exact ⟨.scalar '[', rfl, by decide⟩
      | cons _ _ => exact ⟨.scalar '[', rfl, by decide⟩
  | object fields =>
      cases fields with
      | nil => exact ⟨.scalar '\x7b', rfl, by decide⟩
      | cons _ _ => exact ⟨.scalar '\x7b', rfl, by decide⟩

theorem skipGap_textAt (style : Style) (depth : Nat) (v : Value) (r : Text) :
    skipGap (textAt style depth v ++ r) = textAt style depth v ++ r := by
  obtain ⟨c, hhead, hc, -⟩ := head_textAt style depth v
  obtain ⟨t, ht⟩ := List.head?_eq_some_iff.mp hhead
  rw [ht]
  exact skipGap_of_head hc (t ++ r)

/-- Items that read back are read up to the bracket that closes them. -/
theorem items?_itemsText {depth : Nat} {v : Value} {vs : List Value} (hv : ReadsBack style v)
    (hvs : ∀ w ∈ vs, ReadsBack style w) (hblanks : Gap blanks)
    (hfuel : (textAt style depth v).length + (itemsText style depth vs).length + 1 < fuel) :
    items? fuel (textAt style depth v ++
      (itemsText style depth vs ++ (blanks ++ .scalar ']' :: r))) = some (v :: vs, r) := by
  -- behind each item stands a comma, a gap or the bracket, so that a number ends there
  induction vs generalizing v fuel with
  | nil =>
      obtain ⟨fuel, rfl⟩ : ∃ f, fuel = f + 1 := ⟨fuel - 1, by omega⟩
      have hends : Ends (blanks ++ .scalar ']' :: r) := Ends.gap hblanks (Ends.of_head (by decide) r)
      have hvalue := hv depth fuel _ hends (by omega)
      have hclose : skipGap (blanks ++ .scalar ']' :: r) = .scalar ']' :: r := by
        rw [skipGap_append hblanks, skipGap_of_head (by decide)]
      rw [itemsText, List.nil_append, items?]
      simp only [hvalue, hclose, Option.bind_eq_bind, Option.bind_some]
  | cons w ws ih =>
      obtain ⟨fuel, rfl⟩ : ∃ f, fuel = f + 1 := ⟨fuel - 1, by omega⟩
      obtain ⟨gap, hseparator, hgap⟩ := separator_eq style depth
      have hlength : (itemsText style depth (w :: ws)).length =
          gap.length + 1 + (textAt style depth w).length + (itemsText style depth ws).length := by
        rw [itemsText, List.length_append, List.length_append, hseparator, List.length_cons]
      have hroom : (textAt style depth w).length + (itemsText style depth ws).length + 1 < fuel := by omega
      have hrest := ih (hvs w List.mem_cons_self) (fun x hx => hvs x (List.mem_cons_of_mem w hx)) hroom
      have htext : itemsText style depth (w :: ws) ++ (blanks ++ .scalar ']' :: r) =
          .scalar ',' :: (gap ++ (textAt style depth w ++
            (itemsText style depth ws ++ (blanks ++ .scalar ']' :: r)))) := by
        rw [itemsText, hseparator]
        simp only [List.cons_append, List.append_assoc]
      have hends : Ends (itemsText style depth (w :: ws) ++ (blanks ++ .scalar ']' :: r)) := by
        rw [htext]
        exact Ends.of_head (by decide) _
      have hvalue := hv depth fuel _ hends (by omega)
      rw [items?]
      simp only [hvalue, Option.bind_eq_bind, Option.bind_some]
      rw [htext, skipGap_of_head (by decide)]
      simp only [skipGap_append hgap, skipGap_textAt, hrest, Option.bind_some]

theorem readsBack_list {items : List Value} (h : ∀ v ∈ items, ReadsBack style v) :
    ReadsBack style (.list items) := by
  intro depth fuel r hr hfuel
  obtain ⟨fuel, rfl⟩ : ∃ f, fuel = f + 1 := ⟨fuel - 1, by omega⟩
  cases items with
  | nil => rfl
  | cons v vs =>
      have htext : textAt style depth (.list (v :: vs)) ++ r =
          .scalar '[' :: (style.lineBreak (depth + 1) ++ (textAt style (depth + 1) v ++
            (itemsText style (depth + 1) vs ++ (style.lineBreak depth ++ .scalar ']' :: r)))) := by
        simp only [textAt, List.cons_append, List.append_assoc]
        rfl
      have hlength := congrArg List.length htext
      simp only [List.length_append, List.length_cons] at hlength
      have hroom : (textAt style (depth + 1) v).length + (itemsText style (depth + 1) vs).length + 1 <
          fuel := by omega
      have hitems := items?_itemsText (r := r) (h v List.mem_cons_self)
        (fun w hw => h w (List.mem_cons_of_mem v hw)) (gap_lineBreak style depth) hroom
      -- no item begins with the bracket by which an empty list is told
      obtain ⟨c, hhead, -, hbracket⟩ := head_textAt style (depth + 1) v
      obtain ⟨t, ht⟩ := List.head?_eq_some_iff.mp hhead
      rw [htext, value?.eq_def]
      simp only [skipGap_append (gap_lineBreak style (depth + 1)), skipGap_textAt]
      split
      · next hopen =>
          rw [ht, List.cons_append] at hopen
          exact absurd (List.cons.inj hopen).1 hbracket
      · rw [hitems]
        rfl

/-- The fields of an object from a field on that reads back, given what is behind it. -/
theorem fields?_field {depth : Nat} {name rest : Text} {v : Value} (htells : style.Tells name)
    (hv : ReadsBack style v) (hends : Ends rest) (hfuel : (textAt style depth v).length < fuel) :
    (skipGap rest = .scalar '\x7d' :: r →
      fields? (fuel + 1) (quoted style name ++ .scalar ':' :: .scalar ' ' :: (textAt style depth v ++ rest)) =
        some ([(name, v)], r)) ∧
    (skipGap rest = .scalar ',' :: r →
      fields? (fuel + 1) (quoted style name ++ .scalar ':' :: .scalar ' ' :: (textAt style depth v ++ rest)) =
        (fields? fuel (skipGap r)).map fun found => ((name, v) :: found.1, found.2)) := by
  obtain ⟨t, ht, hstring⟩ := string?_of_quoted htells
    (.scalar ':' :: .scalar ' ' :: (textAt style depth v ++ rest))
  have hcolon : skipGap (.scalar ':' :: .scalar ' ' :: (textAt style depth v ++ rest)) =
      .scalar ':' :: .scalar ' ' :: (textAt style depth v ++ rest) := skipGap_of_head (by decide) _
  have hblank : skipGap (.scalar ' ' :: (textAt style depth v ++ rest)) = textAt style depth v ++ rest :=
    skipGap_textAt style depth v rest
  have hvalue := hv depth fuel rest hends hfuel
  rw [ht]
  constructor
  · intro hrest
    rw [fields?]
    simp only [hstring, hcolon, hblank, hvalue, hrest, Option.bind_eq_bind, Option.bind_some]
  · intro hrest
    rw [fields?]
    simp only [hstring, hcolon, hblank, hvalue, hrest, Option.bind_eq_bind, Option.bind_some]
    cases fields? fuel (skipGap r) with
    | none => rfl
    | some found => rfl

/-- Fields that read back are read up to the brace that closes them. -/
theorem fields?_fieldsText {depth : Nat} {name : Text} {v : Value} {fs : List (Text × Value)}
    (htells : style.Tells name) (hv : ReadsBack style v) (hfs : ∀ f ∈ fs, style.Tells f.1 ∧ ReadsBack style f.2)
    (hblanks : Gap blanks)
    (hfuel : (textAt style depth v).length + (fieldsText style depth fs).length + 1 < fuel) :
    fields? fuel (quoted style name ++ .scalar ':' :: .scalar ' ' :: (textAt style depth v ++
      (fieldsText style depth fs ++ (blanks ++ .scalar '\x7d' :: r)))) = some ((name, v) :: fs, r) := by
  induction fs generalizing name v fuel with
  | nil =>
      obtain ⟨fuel, rfl⟩ : ∃ f, fuel = f + 1 := ⟨fuel - 1, by omega⟩
      have hends : Ends (blanks ++ .scalar '\x7d' :: r) := Ends.gap hblanks (Ends.of_head (by decide) r)
      have hclose : skipGap (blanks ++ .scalar '\x7d' :: r) = .scalar '\x7d' :: r := by
        rw [skipGap_append hblanks, skipGap_of_head (by decide)]
      rw [fieldsText, List.nil_append]
      exact (fields?_field htells hv hends (by omega)).1 hclose
  | cons f fs ih =>
      obtain ⟨fuel, rfl⟩ : ∃ f, fuel = f + 1 := ⟨fuel - 1, by omega⟩
      obtain ⟨name', w⟩ := f
      obtain ⟨gap, hseparator, hgap⟩ := separator_eq style depth
      have htext : fieldsText style depth ((name', w) :: fs) ++ (blanks ++ .scalar '\x7d' :: r) =
          .scalar ',' :: (gap ++ (quoted style name' ++ .scalar ':' :: .scalar ' ' ::
            (textAt style depth w ++ (fieldsText style depth fs ++ (blanks ++ .scalar '\x7d' :: r))))) := by
        rw [fieldsText, hseparator]
        simp only [List.cons_append, List.append_assoc]
        rfl
      have hlength := congrArg List.length htext
      simp only [List.length_append, List.length_cons] at hlength
      have hroom : (textAt style depth w).length + (fieldsText style depth fs).length + 1 < fuel := by omega
      obtain ⟨htells', hw⟩ := hfs _ List.mem_cons_self
      have hrest := ih htells' hw (fun x hx => hfs x (List.mem_cons_of_mem _ hx)) hroom
      have hskip : skipGap (quoted style name' ++ .scalar ':' :: .scalar ' ' ::
            (textAt style depth w ++ (fieldsText style depth fs ++ (blanks ++ .scalar '\x7d' :: r)))) =
          quoted style name' ++ .scalar ':' :: .scalar ' ' ::
            (textAt style depth w ++ (fieldsText style depth fs ++ (blanks ++ .scalar '\x7d' :: r))) :=
        skipGap_of_head (by decide) _
      rw [htext]
      rw [(fields?_field htells hv (Ends.of_head (by decide) _) (by omega)).2
        (skipGap_of_head (by decide) _), skipGap_append hgap, hskip, hrest]
      rfl

theorem readsBack_object {fields : Fields Value} (hnames : fields.names.Nodup)
    (h : ∀ f ∈ fields, style.Tells f.1 ∧ ReadsBack style f.2) : ReadsBack style (.object fields) := by
  intro depth fuel r hr hfuel
  obtain ⟨fuel, rfl⟩ : ∃ f, fuel = f + 1 := ⟨fuel - 1, by omega⟩
  cases fields with
  | nil => rfl
  | cons f fs =>
      obtain ⟨name, v⟩ := f
      have htext : textAt style depth (.object ((name, v) :: fs)) ++ r =
          .scalar '\x7b' :: (style.lineBreak (depth + 1) ++ (quoted style name ++ .scalar ':' ::
            .scalar ' ' :: (textAt style (depth + 1) v ++ (fieldsText style (depth + 1) fs ++
              (style.lineBreak depth ++ .scalar '\x7d' :: r))))) := by
        simp only [textAt, List.cons_append, List.append_assoc]
        rfl
      have hlength := congrArg List.length htext
      simp only [List.length_append, List.length_cons] at hlength
      have hroom : (textAt style (depth + 1) v).length + (fieldsText style (depth + 1) fs).length + 1 <
          fuel := by omega
      obtain ⟨htells, hv⟩ := h _ List.mem_cons_self
      have hfields := fields?_fieldsText (r := r) htells hv
        (fun f hf => h f (List.mem_cons_of_mem _ hf)) (gap_lineBreak style depth) hroom
      rw [htext, value?.eq_def]
      simp only [skipGap_append (gap_lineBreak style (depth + 1))]
      have hskip : ∀ t, skipGap (quoted style name ++ t) = quoted style name ++ t := fun t =>
        skipGap_of_head (by decide) _
      rw [hskip]
      split
      -- a field begins with a quote, and not with the brace of an empty object
      · next hopen => cases hopen
      · rw [hfields, Option.bind_eq_bind, Option.bind_some, Fields.ofList_of_nodup hnames]

/-! ## Documents -/

theorem readsBack (hascii : style.ascii = false) {v : Value} (hv : v.IsDocument) : ReadsBack style v := by
  induction hv with
  | null =>
      intro depth fuel r hr hfuel
      obtain ⟨fuel, rfl⟩ : ∃ f, fuel = f + 1 := ⟨fuel - 1, by omega⟩
      rfl
  | bool b =>
      intro depth fuel r hr hfuel
      obtain ⟨fuel, rfl⟩ : ∃ f, fuel = f + 1 := ⟨fuel - 1, by omega⟩
      cases b with
      | false => rfl
      | true => rfl
  | int h => exact readsBack_int h
  | float x => exact readsBack_float x
  | text t => exact readsBack_text (Style.tells_of_ascii hascii t)
  | list _ ih => exact readsBack_list ih
  | object hnames _ ih =>
      exact readsBack_object hnames fun f hf => ⟨Style.tells_of_ascii hascii f.1, ih f hf⟩

theorem ReadsBack.read?_text {v : Value} (h : ReadsBack style v) : read? (text style v) = some v := by
  have hvalue := h 0 ((text style v).length + 1) [] Ends.nil (Nat.lt_succ_self _)
  have hskip := skipGap_textAt style 0 v []
  rw [List.append_nil] at hvalue hskip
  have hread : skipGap (text style v) = text style v := hskip
  rw [read?, hread]
  simp only [text] at hvalue ⊢
  simp only [hvalue, skipGap, List.dropWhile_nil, List.isEmpty_nil, if_true]

/-- The text of a document reads back to it. -/
theorem read?_text (hascii : style.ascii = false) {v : Value} (hv : v.IsDocument) :
    read? (text style v) = some v :=
  (readsBack hascii hv).read?_text

end Json

end ChatFlow
