import ChatFlow.Proofs.Expr.Respelling
import ChatFlow.Proofs.Expr.Weights

/-!
# How long a value can be

Every token takes up text, and a literal is no longer than the text that writes it. So the tokens of a text weigh no
more than its length allows, and the tree that is read from them, and with it the value, is bounded by the lengths of
the text and of the variables: unless a list is repeated or a text is formatted on the way, for which there is no such
bound.

* `Lexer.tokens?_weight`: what the tokens of a text weigh.
* `Expr.extent_parse?`: what the value of a text is put together from.
* `Expr.extent_evaluate`: the bound for the value of a text.
-/

namespace ChatFlow

namespace Lexer

variable {t r b : Text} {c q : CodePoint} {L fuel depth : Nat} {p : Char → Bool} {lineStart : Bool} {ts : List Token}

/-! ## Numbers -/

theorem digitGroups_length {ds : Text} (h : digitGroups p fuel t = some (ds, r)) : r.length ≤ t.length := by
  induction fuel generalizing t ds r with
  | zero => cases h
  | succ fuel ih =>
      rw [digitGroups] at h
      dsimp only at h
      split at h
      · cases h
      · have hdrop := List.length_drop (l := t) (i := (t.takeWhile (·.isAscii p)).length)
        split at h
        · next r' hrest =>
            obtain ⟨⟨more, r''⟩, hmore, heq⟩ := Option.map_eq_some_iff.mp h
            cases heq
            have hr := ih hmore
            rw [hrest, List.length_cons] at hdrop
            dsimp only at hr ⊢
            omega
        · cases h
          omega

theorem basedNumber?_weight {base : Nat} {token : Token} (h : basedNumber? base p t = some (token, r)) :
    token.weight L = 0 ∧ r.length ≤ t.length := by
  unfold basedNumber? at h
  obtain ⟨⟨ds, rest⟩, hdigits, h⟩ := Option.bind_eq_some_iff.mp h
  have hrest := digitGroups_length hdigits
  dsimp only at h
  split at h
  · cases h
  · cases h
    refine ⟨rfl, Nat.le_trans hrest ?_⟩
    split
    · exact Nat.le_succ _
    · exact Nat.le_refl _

theorem exponent?_length {n : Int} (h : exponent? t = some (n, r)) : r.length ≤ t.length := by
  unfold exponent? at h
  split at h
  · split at h
    · obtain ⟨⟨ds, rest⟩, hdigits, heq⟩ := Option.map_eq_some_iff.mp h
      cases heq
      refine Nat.le_trans (digitGroups_length hdigits) ?_
      split <;> simp <;> omega
    · cases h
  · cases h

theorem finish_weight {whole fraction : Text} {pointed : Bool} {scaled : Option (Int × Text)} {value : Nat}
    {token : Token}
    (h : decimalNumber?.finish whole fraction t pointed scaled value = some (token, r)) :
    token.weight L = 0 ∧ r = t := by
  unfold decimalNumber?.finish at h
  grind [Token.weight, Value.extent]

/-- The end of a number: an exponent, and the mark of an imaginary one. -/
theorem scaled_length (r : Text) : (((exponent? r).map Prod.snd).getD r).length ≤ r.length := by
  cases hscaled : exponent? r with
  | none => exact Nat.le_refl _
  | some found => exact exponent?_length hscaled

/-- What stands behind the digits of a number is no longer than the text behind them. -/
theorem numberEnd_weight {whole fraction rest : Text} {pointed : Bool} {value : Nat} {token : Token}
    (h : (match ((exponent? rest).map Prod.snd).getD rest with
      | c :: r' =>
        if c = .scalar 'j' ∨ c = .scalar 'J' then
          if endsNumber r' = true then some (Token.imaginary, r') else none
        else
          decimalNumber?.finish whole fraction (((exponent? rest).map Prod.snd).getD rest) pointed (exponent? rest)
            value
      | [] =>
        decimalNumber?.finish whole fraction (((exponent? rest).map Prod.snd).getD rest) pointed (exponent? rest)
          value) =
        some (token, r)) : token.weight L = 0 ∧ r.length ≤ rest.length := by
  have hscaled := scaled_length rest
  split at h
  next c r' hr' =>
    split at h
    · split at h <;> cases h
      rw [hr', List.length_cons] at hscaled
      exact ⟨rfl, by omega⟩
    · obtain ⟨hweight, rfl⟩ := finish_weight (L := L) h
      exact ⟨hweight, hscaled⟩
  · obtain ⟨hweight, rfl⟩ := finish_weight (L := L) h
    exact ⟨hweight, hscaled⟩

theorem decimalNumber?_weight {token : Token} (h : decimalNumber? t = some (token, r)) :
    token.weight L = 0 ∧ r.length ≤ t.length := by
  have hdigits := @digitGroups_length
  obtain ⟨n, hn⟩ : ∃ n, t.length = n := ⟨_, rfl⟩
  rw [hn]
  unfold decimalNumber? at h
  dsimp only at h
  split at h <;> obtain ⟨⟨whole, rest⟩, hwhole, h⟩ := Option.bind_eq_some_iff.mp h
  all_goals
    have hrest : rest.length ≤ n := by grind
    dsimp only at h
    split at h
  all_goals try split at h
  all_goals
    obtain ⟨⟨fraction, rest', pointed⟩, hfraction, h⟩ := Option.bind_eq_some_iff.mp h
    have hrest' : rest'.length ≤ n := by grind [Option.map_eq_some_iff]
    dsimp only at h
    split at h
    · cases h
    · obtain ⟨hweight, hlength⟩ := numberEnd_weight (L := L) h
      exact ⟨hweight, Nat.le_trans hlength hrest'⟩

theorem number?_weight {token : Token} (h : number? t = some (token, r)) :
    token.weight L = 0 ∧ r.length ≤ t.length := by
  unfold number? at h
  split at h
  next c t =>
    have hbased (base : Nat) (p : Char → Bool) (h : basedNumber? base p t = some (token, r)) :
        token.weight L = 0 ∧ r.length ≤ (CodePoint.scalar '0' :: c :: t).length := by
      obtain ⟨hweight, hlength⟩ := basedNumber?_weight (L := L) h
      exact ⟨hweight, Nat.le_trans hlength (by simp; omega)⟩
    split at h
    · exact hbased _ _ h
    · split at h
      · exact hbased _ _ h
      · split at h
        · exact hbased _ _ h
        · exact decimalNumber?_weight h
  · exact decimalNumber?_weight h

/-! ## Signs and string literals -/

theorem sign?_length {s : Sign} (h : sign? t = some (s, r)) : r.length < t.length := by
  obtain ⟨⟨x, s'⟩, hfound, heq⟩ := Option.map_eq_some_iff.mp h
  cases heq
  have hprefix := List.isPrefixOf_iff_prefix.mp (List.find?_some (p := fun x : Text × Sign => x.1.isPrefixOf t) hfound)
  have hx : 0 < x.length :=
    (by decide : ∀ x ∈ signs, 0 < x.1.length) _ (List.mem_of_find?_eq_some hfound)
  have hle := hprefix.length_le
  dsimp only at hle
  rw [List.length_drop]
  omega

theorem opening?_length {o : Opening} (h : opening? t = some (o, q, r)) : r.length < t.length := by
  unfold opening? at h
  dsimp only at h
  have hdrop := List.length_drop (l := t) (i := (t.takeWhile (·.isAscii Char.isAlpha)).length)
  split at h
  next q' r' hrest =>
    rw [hrest, List.length_cons] at hdrop
    grind [Option.map_eq_some_iff]
  · cases h

theorem body?_length {triple : Bool} (h : body? q triple t = some (b, r)) : b.length + r.length ≤ t.length := by
  fun_induction body? q triple t generalizing b r with
  | case1 => cases h
  | _ => grind [Option.map_eq_some_iff]

theorem hexEscape?_length {n : Nat} (h : hexEscape? n t = some (c, r)) : r.length ≤ t.length := by
  unfold hexEscape? at h
  grind [Option.bind_eq_some_iff]

theorem unescape?_length (h : unescape? fuel t = some b) : b.length ≤ t.length := by
  fun_induction unescape? fuel t generalizing b with
  | case1 => cases h
  | case2 => cases h; exact Nat.le_refl _
  | _ => 
     try have := @hexEscape?_length
     grind [Option.map_eq_some_iff, Option.bind_eq_some_iff]

theorem string?_weight {token : Token} (h : string? t = some (some (token, r))) :
    token.weight L + r.length < t.length := by
  obtain ⟨⟨o, q, rest⟩, hopening, h⟩ := Option.map_eq_some_iff.mp h
  refine Nat.lt_of_le_of_lt ?_ (opening?_length hopening)
  dsimp only at h
  have hunescape := @unescape?_length
  -- behind the opening there are one quote or three
  split at h
  · split at h
    all_goals
      obtain ⟨⟨body, r'⟩, hbody, h⟩ := Option.bind_eq_some_iff.mp h
      have hlength := body?_length hbody
      grind [Token.weight, Option.map_eq_some_iff]
  · obtain ⟨⟨body, r'⟩, hbody, h⟩ := Option.bind_eq_some_iff.mp h
    have hlength := body?_length hbody
    grind [Token.weight, Option.map_eq_some_iff]

/-! ## Tokens -/

/-- With so many steps, tokens weigh no more than their text allows. -/
def Bounded (L fuel : Nat) : Prop :=
  ∀ depth lineStart t ts, scan fuel depth lineStart t = some ts → ExprReader.weight L ts ≤ (L + 1) * t.length

theorem Bounded.skip (h : Bounded L fuel) (hr : r.length ≤ t.length) (hscan : scan fuel depth lineStart r = some ts) :
    ExprReader.weight L ts ≤ (L + 1) * t.length :=
  Nat.le_trans (h _ _ _ _ hscan) (Nat.mul_le_mul_left _ hr)

theorem Bounded.token (h : Bounded L fuel) {token : Token} (hr : r.length ≤ t.length)
    (htoken : token.weight L ≤ (L + 1) * (t.length - r.length))
    (hscan : (scan fuel depth lineStart r).map (token :: ·) = some ts) :
    ExprReader.weight L ts ≤ (L + 1) * t.length := by
  obtain ⟨ts', hts', rfl⟩ := Option.map_eq_some_iff.mp hscan
  rw [ExprReader.weight_cons, ← Nat.sub_add_cancel hr, Nat.mul_add]
  exact Nat.add_le_add htoken (h _ _ _ _ hts')

/-- A word has one character at least. -/
theorem Bounded.word (h : Bounded L fuel) (hc : isWordStart c = true) (hr : (c :: r).length ≤ t.length)
    (hscan : (scan fuel depth false ((c :: r).drop ((c :: r).takeWhile isWordPart).length)).map
      (.word ((c :: r).takeWhile isWordPart) :: ·) = some ts) : ExprReader.weight L ts ≤ (L + 1) * t.length := by
  have hword : 0 < ((c :: r).takeWhile isWordPart).length := by
    rw [isWordStart, Bool.and_eq_true] at hc
    rw [List.takeWhile_cons_of_pos hc.1]
    exact Nat.succ_pos _
  have hdrop := List.length_drop (l := c :: r) (i := ((c :: r).takeWhile isWordPart).length)
  rw [List.length_cons] at hr hdrop
  exact h.token (by omega) (Nat.le_trans (Nat.le_succ L) (Nat.le_mul_of_pos_right _ (by omega))) hscan

theorem Bounded.sign (h : Bounded L fuel) {s : Sign} (hr : r.length ≤ t.length)
    (hscan : (if s = .leftParen ∨ s = .leftBracket ∨ s = .leftBrace then
        if maxDepth ≤ depth then none else (scan fuel (depth + 1) false r).map (.sign s :: ·)
      else if s = .rightParen ∨ s = .rightBracket ∨ s = .rightBrace then
        if depth = 0 then none else (scan fuel (depth - 1) false r).map (.sign s :: ·)
      else (scan fuel depth false r).map (.sign s :: ·)) = some ts) : ExprReader.weight L ts ≤ (L + 1) * t.length := by
  split at hscan
  · split at hscan
    · cases hscan
    · exact h.token hr (Nat.zero_le _) hscan
  · split at hscan
    · split at hscan
      · cases hscan
      · exact h.token hr (Nat.zero_le _) hscan
    · exact h.token hr (Nat.zero_le _) hscan

/-- What is read at the first character of a token. -/
theorem Bounded.solid (h : Bounded L fuel) (hr : (c :: r).length ≤ t.length)
    (hscan : scanSolid fuel depth c r = some ts) : ExprReader.weight L ts ≤ (L + 1) * t.length := by
  rw [scanSolid] at hscan
  split at hscan
  next found hstring =>
    obtain ⟨⟨token, r'⟩, rfl, hscan⟩ := Option.bind_eq_some_iff.mp hscan
    have hweight := string?_weight (L := L) hstring
    refine h.token (by omega) (Nat.le_trans ?_ (Nat.le_mul_of_pos_left _ (Nat.succ_pos L))) hscan
    omega
  · split at hscan
    next hstart =>
      dsimp only at hscan
      split at hscan
      · exact h.word hstart hr hscan
      · cases hscan
    · split at hscan
      · obtain ⟨⟨token, r'⟩, hnumber, hscan⟩ := Option.bind_eq_some_iff.mp hscan
        have hweight := number?_weight (L := L) hnumber
        exact h.token (Nat.le_trans hweight.2 hr) (by rw [hweight.1]; exact Nat.zero_le _) hscan
      · split at hscan
        · cases hscan
        next s r' hsign => exact h.sign (Nat.le_trans (Nat.le_of_lt (sign?_length hsign)) hr) hscan

theorem bounded_scan (L fuel : Nat) : Bounded L fuel := by
  induction fuel with
  | zero =>
      intro depth lineStart t ts h
      cases h
  | succ fuel ih =>
      intro depth lineStart t ts h
      have hgap : (t.dropWhile isGap).length ≤ t.length := (List.dropWhile_sublist _).length_le
      have hcomment (r : Text) : (skipComment r).length ≤ r.length := (List.dropWhile_sublist _).length_le
      rw [scan] at h
      split at h
      · -- a blank line
        split at h
        · cases h
          exact Nat.zero_le _
        next c r hr =>
          have hcomment := hcomment (t.dropWhile isGap)
          rw [hr, List.length_cons] at hcomment
          exact ih.skip (by omega) h
      · split at h
        · cases h
        · split at h
          · cases h
            exact Nat.zero_le _
          next r hr =>
            rw [hr, List.length_cons] at hgap
            exact ih.skip (Nat.le_trans (hcomment r) (by omega)) h
          next r hr =>
            rw [hr, List.length_cons] at hgap
            split at h
            · exact ih.token (by omega) (Nat.zero_le _) h
            · exact ih.skip (by omega) h
          next r hr =>
            rw [hr, List.length_cons, List.length_cons] at hgap
            split at h
            · cases h
            · exact ih.skip (by omega) h
          case h_5 c r _ _ _ hr =>
            rw [hr] at hgap
            exact ih.solid hgap h

theorem unifyLineEnds_length (t : Text) : (unifyLineEnds t).length ≤ t.length := by
  fun_induction unifyLineEnds t <;> grind

/-- What the tokens of a text weigh. -/
theorem tokens?_weight (h : tokens? t = some ts) : ExprReader.weight L ts ≤ (L + 1) * t.length :=
  Nat.le_trans (bounded_scan L _ _ _ _ _ h) (Nat.mul_le_mul_left _ (unifyLineEnds_length t))

end Lexer

namespace ExprReader

theorem free_tupleRest (L fuel n : Nat) : Free L (whole.tupleRest fuel n) := by
  induction n with
  | zero => exact pays_refuse
  | succ n ih =>
      rw [whole.tupleRest]
      refine free_peek.andThen fun _ => ?_
      split
      · exact free_pure
      · exact free_pure
      · exact (thrifty L fuel).expression.free.andThen fun _ => free_sign?.andThen fun _ => pays_ite ih free_pure

theorem pays_whole (L fuel : Nat) : Pays L 0 (Expr.extent L) (whole fuel) := by
  rw [whole]
  exact (thrifty L fuel).expression.keep fun _ => free_sign?.andThen fun _ =>
    pays_ite ((free_tupleRest L fuel fuel).andThen fun _ => pays_other) (pays_pure (Nat.le_refl _))

end ExprReader

namespace Expr

variable {vars : Fields Value} {t : Text} {e : Expr} {v other : Value} {L : Nat}

/-- What the value of a text is put together from is bounded by the text. -/
theorem extent_parse? (h : parse? t = some e) : e.extent L ≤ (L + 1) * t.length := by
  obtain ⟨ts, hts, h⟩ := Option.bind_eq_some_iff.mp h
  obtain ⟨⟨e', rest⟩, hrun, h⟩ := Option.bind_eq_some_iff.mp h
  have hpays := ExprReader.pays_whole L _ ts e' rest hrun
  have hweight := Lexer.tokens?_weight (L := L) hts
  dsimp only at h
  split at h
  · cases h
    omega
  · cases h

theorem extent_run (hvars : ∀ n w, vars.get? n = some w → w.extent ≤ L) (h : run vars t = .ok v) :
    v.extent ≤ (L + 1) * t.length ∨ ∃ e, parse? t = some e ∧ e.Swells vars := by
  unfold run at h
  split at h
  · cases h
  · split at h
    · cases h
    · split at h
      · cases h
      next e hparse =>
        rcases extent_eval hvars e v h with hextent | hswells
        · exact .inl (Nat.le_trans hextent (extent_parse? hparse))
        · exact .inr ⟨e, hparse, hswells⟩

/-- The value of a text is the stand-in, or no longer than the lengths of a text and of its variables allow, unless a
list is repeated or a text formatted on the way. -/
theorem extent_evaluate (hvars : ∀ n w, vars.get? n = some w → w.extent ≤ L)
    (hswells : ∀ e, parse? (unifyOperators t).trim = some e → ¬ e.Swells vars) :
    evaluate vars other t = other ∨ (evaluate vars other t).extent ≤ maxLength * (L + maxLength) := by
  unfold evaluate
  dsimp only
  split
  · exact .inl rfl
  next hlength =>
    rw [Bool.or_eq_true, not_or, decide_eq_true_iff] at hlength
    split
    next v hrun =>
      right
      rcases extent_run hvars hrun with hextent | ⟨e, hparse, he⟩
      · calc v.extent ≤ (L + 1) * (unifyOperators t).trim.length := hextent
          _ ≤ (L + maxLength) * maxLength :=
            Nat.mul_le_mul (Nat.add_le_add_left (by decide) L) (Nat.le_of_not_lt hlength.2)
          _ = maxLength * (L + maxLength) := Nat.mul_comm _ _
      · exact absurd he (hswells e hparse)
    · exact .inl rfl

/-- Two texts joined. -/
def joinedTexts : Formula :=
  .binary .add (.quoted ⟨false, [.plain (.scalar 'a'), .plain (.scalar 'b')], by simp [QuotedPart.Fits]⟩)
    (.quoted ⟨false, [.plain (.scalar 'c')], by simp [QuotedPart.Fits]⟩)

theorem extent_evaluate_joinedTexts :
    evaluate [("x", .list [.null, .null])] .null (joinedTexts.spell (.words 1 0 0)) = .null ∨
      (evaluate [("x", .list [.null, .null])] .null (joinedTexts.spell (.words 1 0 0))).extent ≤
        maxLength * (2 + maxLength) := by
  refine extent_evaluate (fun n w h => ?_) (fun e hparse hswells => ?_)
  · simp only [Fields.get?] at h
    split at h <;> cases h
    exact Nat.le_refl 2
  · have htrim : (unifyOperators (joinedTexts.spell (.words 1 0 0))).trim = joinedTexts.spell (.words 1 0 0) := by
      decide
    rw [htrim, Formula.parse?_spell] at hparse
    cases hparse
    rcases hswells with _ | _ | ⟨_, _, h⟩ | ⟨_, _, h⟩ <;> cases h

theorem length_pad (c : Format.Conversion) (zeros : Bool) (front body : Text) :
    (Format.pad c zeros front body).length = max c.width (front.length + body.length) := by
  unfold Format.pad
  dsimp only
  split
  · simp only [List.length_append, List.length_replicate]
    omega
  · split
    · simp only [List.length_append, List.length_replicate]
      omega
    · simp only [List.length_append, List.length_replicate]
      omega

/-- A text in a great width. -/
def widened : Formula :=
  .binary .mod (.quoted ⟨false, (Text.ofString "%250001s").map .plain, by simp [QuotedPart.Fits, Text.ofString]⟩)
    (.quoted ⟨false, [.plain (.scalar 'x')], by simp [QuotedPart.Fits]⟩)

/-- Without any variables, a short text brings about a value beyond the bound. -/
theorem extent_evaluate_widened :
    widened.spell (.words 1 0 0) = "('%250001s' % 'x')" ∧
      maxLength * (0 + maxLength) < (evaluate [] .null (widened.spell (.words 1 0 0))).extent := by
  refine ⟨by decide, ?_⟩
  have htrim : (unifyOperators (widened.spell (.words 1 0 0))).trim = widened.spell (.words 1 0 0) := by decide
  have hrun : run [] (widened.spell (.words 1 0 0)) =
      .ok (.text (Format.pad ⟨{}, 250001, none, 's'⟩ false [] "x" ++ [])) := by
    rw [run, Formula.parse?_spell]
    rfl
  unfold evaluate
  rw [htrim]
  dsimp only
  rw [if_neg (by decide), hrun, List.append_nil]
  change maxLength * (0 + maxLength) < (Format.pad ⟨{}, 250001, none, 's'⟩ false [] "x").length
  rw [length_pad]
  decide

end Expr

end ChatFlow
