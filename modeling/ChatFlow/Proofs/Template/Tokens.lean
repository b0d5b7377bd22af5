import ChatFlow.Fault
import ChatFlow.Template.Piece
import Mathlib.Data.List.Forall2

/-!
# The tokens of a text

A token stands in a text wherever a name without braces stands between an opening and a closing one. This is said of
places in the text, whatever stands before and behind them. Two tokens never overlap, and so there is one way only to
take a text apart into its tokens and single code points: it is how the text is scanned.

* `Text.TokenAt`: a token stands at a place of a text.
* `TokenAt.disjoint`: tokens do not overlap.
* `Piece.Splits`: pieces that spell out a text and have all of its tokens among them.
* `Piece.splits_iff`: the scanned pieces are these, and no others are.
* `Text.IsFilled`: a text with its tokens replaced, all at once; `fill_eq_ok_iff` says that filling comes to it.
-/

namespace ChatFlow

/-- A name that can stand in a token: it is not empty and has no braces. -/
def Text.IsName (w : Text) : Prop := w ≠ [] ∧ ∀ c ∈ w, c ≠ .scalar '{' ∧ c ≠ .scalar '}'

/-- At place `i` of the text, counted in code points, a token stands. -/
def Text.TokenAt (t : Text) (i : Nat) (w : Text) : Prop :=
  w.IsName ∧ ∃ before after, t = before ++ Piece.written w ++ after ∧ before.length = i

variable {t w v r x : Text} {i j : Nat}

/-! ## Places -/

theorem Piece.length_written (w : Text) : (written w).length = w.length + 2 := by
  simp [written]

namespace Text.TokenAt

theorem opens (h : t.TokenAt i w) : t[i]? = some (.scalar '{') := by
  obtain ⟨-, before, after, rfl, rfl⟩ := h
  simp [Piece.written]

theorem closes (h : t.TokenAt i w) : t[i + 1 + w.length]? = some (.scalar '}') := by
  obtain ⟨-, before, after, rfl, rfl⟩ := h
  have hplace : before.length + 1 + w.length - before.length = w.length + 1 := by omega
  rw [List.append_assoc, List.getElem?_append_right (by omega), hplace]
  simp [Piece.written]

theorem inside (h : t.TokenAt i w) {k : Nat} (hk : k < w.length) : t[i + 1 + k]? = w[k]? := by
  obtain ⟨-, before, after, rfl, rfl⟩ := h
  have hplace : before.length + 1 + k - before.length = k + 1 := by omega
  rw [List.append_assoc, List.getElem?_append_right (by omega), hplace]
  simp [Piece.written, List.getElem?_append_left hk, List.append_assoc]

/-- The code points of the name are no braces. -/
theorem inside_ne (h : t.TokenAt i w) {k : Nat} (hk : k < w.length) :
    t[i + 1 + k]? ≠ some (.scalar '{') ∧ t[i + 1 + k]? ≠ some (.scalar '}') := by
  rw [h.inside hk, List.getElem?_eq_getElem hk]
  have hne := h.1.2 w[k] (List.getElem_mem hk)
  constructor
  · intro hopen
    exact hne.1 (Option.some.inj hopen)
  · intro hclose
    exact hne.2 (Option.some.inj hclose)

/-- What stands at a place is one token at most. -/
theorem name_unique (hv : t.TokenAt i v) (hw : t.TokenAt i w) : v = w := by
  -- a shorter name would have its closing brace inside the longer one
  have hlength : v.length = w.length := by
    rcases Nat.lt_trichotomy v.length w.length with hless | heq | hmore
    · exact absurd hv.closes (hw.inside_ne hless).2
    · exact heq
    · exact absurd hw.closes (hv.inside_ne hmore).2
  apply List.ext_getElem?
  intro k
  -- inside, both are read off the text
  rcases Nat.lt_or_ge k v.length with hk | hk
  · rw [← hv.inside hk, ← hw.inside (hlength ▸ hk)]
  · rw [List.getElem?_eq_none hk, List.getElem?_eq_none (hlength ▸ hk)]

theorem le_of_lt (hv : t.TokenAt i v) (hw : t.TokenAt j w) (hij : i < j) :
    i + (Piece.written v).length ≤ j := by
  rw [Piece.length_written]
  by_contra hoverlap
  -- the second token would open inside the first one, or with its closing brace
  have hopens := hw.opens
  rcases Nat.lt_or_ge j (i + 1 + v.length) with hinside | hlast
  · have hplace : i + 1 + (j - i - 1) = j := by omega
    have hne := (hv.inside_ne (k := j - i - 1) (by omega)).1
    rw [hplace] at hne
    exact hne hopens
  · have hplace : i + 1 + v.length = j := by omega
    have hcloses := hv.closes
    rw [hplace, hopens] at hcloses
    exact absurd hcloses (by decide)

/-- Two tokens are the same, or the one ends before the other begins. -/
theorem disjoint (hv : t.TokenAt i v) (hw : t.TokenAt j w) :
    (i = j ∧ v = w) ∨ i + (Piece.written v).length ≤ j ∨ j + (Piece.written w).length ≤ i := by
  rcases Nat.lt_trichotomy i j with hless | rfl | hmore
  · exact .inr (.inl (hv.le_of_lt hw hless))
  · exact .inl ⟨rfl, hv.name_unique hw⟩
  · exact .inr (.inr (hw.le_of_lt hv hmore))

end Text.TokenAt

namespace Piece

variable {pieces others : List Piece} {p : Piece}

/-! ## Taking a text apart -/

/-- A token is among the pieces, behind some that spell out `i` code points. -/
def HasToken (pieces : List Piece) (i : Nat) (w : Text) : Prop :=
  ∃ before after, pieces = before ++ token w :: after ∧ (before.flatMap source).length = i

/-- The pieces are those of the text: they spell it out, and the tokens among them are the ones that stand in it. -/
structure Splits (pieces : List Piece) (t : Text) : Prop where
  source : pieces.flatMap source = t
  tokens : ∀ i w, t.TokenAt i w ↔ HasToken pieces i w

theorem source_ne_nil (p : Piece) : p.source ≠ [] := by
  rcases p with c | w
  · exact List.cons_ne_nil c []
  · exact List.cons_ne_nil _ _

theorem hasToken_cons : HasToken (p :: pieces) i w ↔
    (i = 0 ∧ p = token w) ∨ (p.source.length ≤ i ∧ HasToken pieces (i - p.source.length) w) := by
  constructor
  · rintro ⟨before, after, hpieces, rfl⟩
    rcases before with _ | ⟨q, before⟩
    · rw [List.nil_append, List.cons.injEq] at hpieces
      exact .inl ⟨rfl, hpieces.1⟩
    · rw [List.cons_append, List.cons.injEq] at hpieces
      obtain ⟨rfl, rfl⟩ := hpieces
      refine .inr ⟨?_, before, after, rfl, ?_⟩
      · rw [List.flatMap_cons, List.length_append]
        omega
      · rw [List.flatMap_cons, List.length_append]
        omega
  · rintro (⟨rfl, rfl⟩ | ⟨hle, before, after, rfl, hlength⟩)
    · exact ⟨[], pieces, rfl, rfl⟩
    · refine ⟨p :: before, after, rfl, ?_⟩
      rw [List.flatMap_cons, List.length_append]
      omega

/-- At the beginning, there is the first piece only. -/
theorem hasToken_cons_zero : HasToken (p :: pieces) 0 w ↔ p = token w := by
  rw [hasToken_cons]
  constructor
  · rintro (⟨-, hp⟩ | ⟨hle, -⟩)
    · exact hp
    · exact absurd (List.eq_nil_of_length_eq_zero (by omega)) p.source_ne_nil
  · intro hp
    exact .inl ⟨rfl, hp⟩

/-- Behind the first piece, there are the others. -/
theorem hasToken_cons_add : HasToken (p :: pieces) (p.source.length + i) w ↔ HasToken pieces i w := by
  have hlater : ¬ (p.source.length + i = 0 ∧ p = token w) := by
    rintro ⟨hlength, -⟩
    exact absurd (List.eq_nil_of_length_eq_zero (by omega)) p.source_ne_nil
  have hle : p.source.length ≤ p.source.length + i := Nat.le_add_right _ _
  rw [hasToken_cons, Nat.add_sub_cancel_left]
  simp only [hlater, hle, false_or, true_and]

/-- Pieces that spell out the same and have the same tokens at the same places are the same. -/
theorem eq_of_same (hsource : pieces.flatMap source = others.flatMap source)
    (htokens : ∀ i w, HasToken pieces i w ↔ HasToken others i w) : pieces = others := by
  induction pieces generalizing others with
  | nil =>
      rcases others with _ | ⟨q, others⟩
      · rfl
      · have hempty := List.append_eq_nil_iff.mp hsource.symm
        exact absurd hempty.1 q.source_ne_nil
  | cons p pieces ih =>
      rcases others with _ | ⟨q, others⟩
      · have hempty := List.append_eq_nil_iff.mp hsource
        exact absurd hempty.1 p.source_ne_nil
      · -- a token comes first in both, or in neither; then both begin with the first code point
        have hfirst : p = q := by
          have hboth : ∀ w, p = token w ↔ q = token w := by
            intro w
            rw [← hasToken_cons_zero, htokens 0 w, hasToken_cons_zero]
          rcases p with c | w
          · rcases q with d | w
            · have hheads := congrArg List.head? hsource
              simp only [List.flatMap_cons, source, List.singleton_append, List.head?_cons, Option.some.injEq] at hheads
              rw [hheads]
            · exact (hboth w).mpr rfl
          · exact ((hboth w).mp rfl).symm
        subst hfirst
        rw [List.flatMap_cons, List.flatMap_cons, List.append_cancel_left_eq] at hsource
        have hrest : pieces = others := by
          apply ih hsource
          intro i w
          rw [← hasToken_cons_add, htokens, hasToken_cons_add]
        rw [hrest]

/-! ## Scanning -/

/-- Only names are scanned as tokens. -/
theorem isName_of_mem_scan {opened : Option Text}
    (hopened : ∀ name ∈ opened, ∀ c ∈ name, c ≠ .scalar '{' ∧ c ≠ .scalar '}') (h : token w ∈ scan opened t) :
    w.IsName := by
  -- what is given up comes out as single code points
  have hplain : ∀ name : Text, token w ∉ plain (.scalar '{') :: name.map plain := by
    simp
  induction t generalizing opened with
  | nil =>
      rcases opened with _ | name
      · cases h
      · exact absurd h (hplain name)
  | cons c t ih =>
      rcases opened with _ | name
      · rw [scan] at h
        split at h
        · exact ih (by simp) h
        · exact ih (by simp) (List.mem_of_ne_of_mem (by simp) h)
      · have hname := hopened name rfl
        rw [scan] at h
        split at h
        · rw [← List.cons_append, List.mem_append] at h
          rcases h with hopen | hrest
          · exact absurd hopen (hplain name)
          · exact ih (by simp) hrest
        · next hopen =>
            split at h
            · split at h
              · exact ih (by simp) (List.mem_of_ne_of_mem (by simp) (List.mem_of_ne_of_mem (by simp) h))
              · next hempty =>
                  rcases List.mem_cons.mp h with hfound | hrest
                  · rw [token.inj hfound]
                    exact ⟨by simpa using hempty, hname⟩
                  · exact ih (by simp) hrest
            · next hclose =>
                -- the code point is no brace and goes to the name
                refine ih ?_ h
                rintro _ ⟨⟩ d hd
                rcases List.mem_append.mp hd with hold | hnew
                · exact hname d hold
                · rw [List.mem_singleton.mp hnew]
                  exact ⟨hopen, hclose⟩

/-- A name is taken in up to its end. -/
theorem scan_name {name : Text} (hw : ∀ c ∈ w, c ≠ .scalar '{' ∧ c ≠ .scalar '}') (r : Text) :
    scan (some name) (w ++ r) = scan (some (name ++ w)) r := by
  induction w generalizing name with
  | nil => rw [List.nil_append, List.append_nil]
  | cons c w ih =>
      obtain ⟨hopen, hclose⟩ := hw c List.mem_cons_self
      rw [List.cons_append, scan, if_neg hopen, if_neg hclose, ih fun d hd => hw d (List.mem_cons_of_mem _ hd),
        List.append_assoc, List.singleton_append]

/-- Whatever was open before, a token is found behind an opening brace. -/
theorem scan_written (hw : w.IsName) (r : Text) : scan none (written w ++ r) = token w :: scan none r := by
  have hempty : ¬ w.isEmpty = true := by
    simpa using hw.1
  rw [written, List.cons_append, scan, if_pos rfl, List.append_assoc, scan_name hw.2, List.nil_append,
    List.singleton_append, scan, if_neg (by decide), if_pos rfl, if_neg hempty]

/-- Before a token, the scanner is at the beginning, whatever it has read. -/
theorem exists_scan_written (hw : w.IsName) (opened : Option Text) (before after : Text) :
    ∃ pieces, scan opened (before ++ written w ++ after) = pieces ++ token w :: scan none after := by
  induction before generalizing opened with
  | nil =>
      have hfound := scan_written hw after
      rcases opened with _ | name
      · exact ⟨[], hfound⟩
      · -- what was open is given up as soon as the token opens
        refine ⟨plain (.scalar '{') :: name.map plain, ?_⟩
        rw [written, List.cons_append, scan, if_pos rfl] at hfound
        rw [List.nil_append, written, List.cons_append, scan, if_pos rfl, hfound, List.cons_append]
  | cons c before ih =>
      rcases opened with _ | name
      · rw [List.cons_append, List.cons_append, scan]
        split
        · exact ih _
        · obtain ⟨pieces, hpieces⟩ := ih none
          exact ⟨plain c :: pieces, by rw [hpieces, List.cons_append]⟩
      · rw [List.cons_append, List.cons_append, scan]
        split
        · obtain ⟨pieces, hpieces⟩ := ih (some [])
          refine ⟨plain (.scalar '{') :: (name.map plain ++ pieces), ?_⟩
          rw [hpieces, List.cons_append, List.append_assoc]
        · split
          · obtain ⟨pieces, hpieces⟩ := ih none
            split
            · exact ⟨plain (.scalar '{') :: plain (.scalar '}') :: pieces, by rw [hpieces]; rfl⟩
            · exact ⟨token name :: pieces, by rw [hpieces, List.cons_append]⟩
          · exact ih _

/-- The scanned pieces are those of the text. -/
theorem splits_ofText (t : Text) : Splits (ofText t) t where
  source := flatMap_source t
  tokens := by
    intro i w
    constructor
    · rintro ⟨hw, before, after, rfl, rfl⟩
      obtain ⟨pieces, hpieces⟩ := exists_scan_written hw none before after
      refine ⟨pieces, scan none after, hpieces, ?_⟩
      -- both spell out the text, and what stands from the token on is the same
      have hsource := flatMap_source (before ++ written w ++ after)
      rw [ofText, hpieces, List.flatMap_append, List.flatMap_cons, flatMap_source_scan, Option.elim_none,
        List.nil_append, source, ← List.append_assoc] at hsource
      rw [List.append_cancel_right hsource |> List.append_cancel_right]
    · rintro ⟨before, after, hpieces, rfl⟩
      refine ⟨?_, before.flatMap source, after.flatMap source, ?_, rfl⟩
      · have hscanned : token w ∈ scan none t := by
          show token w ∈ ofText t
          rw [hpieces]
          exact List.mem_append_right _ List.mem_cons_self
        exact isName_of_mem_scan (by simp) hscanned
      · rw [← flatMap_source t, hpieces, List.flatMap_append, List.flatMap_cons, source, List.append_assoc]

/-- A text is taken apart in one way only: by scanning it. -/
theorem splits_iff : Splits pieces t ↔ ofText t = pieces := by
  constructor
  · intro h
    apply eq_of_same ((splits_ofText t).source.trans h.source.symm)
    intro i w
    rw [← (splits_ofText t).tokens i w, h.tokens i w]
  · rintro rfl
    exact splits_ofText t

/-! ## Filling -/

/-- What a piece becomes when tokens are replaced by their values. -/
def BecomesBy (value : Text → Except Fault Text) : Piece → Text → Prop
  | plain c, x => x = [c]
  | token w, x => value w = .ok x

end Piece

/-- The second text is the first one with its tokens replaced by their values, all at once: every token that stands in
the text gives way to its value, and all other code points stay in their places. -/
def Text.IsFilled (value : Text → Except Fault Text) (t r : Text) : Prop :=
  ∃ pieces parts, Piece.Splits pieces t ∧ List.Forall₂ (Piece.BecomesBy value) pieces parts ∧ r = parts.flatten

/-- The value of a token of which it is known whether it has a replacement: the token itself if it has none. -/
def Piece.valueOr (replacement : Text → Except Fault (Option Text)) (w : Text) : Except Fault Text :=
  (replacement w).map fun x => x.getD (written w)

/-- Whatever replaces a token, the token is not asked for. -/
theorem Piece.map_getD_some (shown : Except Fault Text) (other : Text) :
    (shown.map some).map (fun x => x.getD other) = shown := by
  rcases shown with fault | x
  · rfl
  · rfl

namespace Piece

variable {pieces : List Piece} {replacement : Text → Except Fault (Option Text)}

theorem fill_plain (c : CodePoint) : fill replacement (plain c :: pieces) = (fill replacement pieces).map (c :: ·) := by
  rw [fill]
  rcases fill replacement pieces with fault | r
  · rfl
  · rfl

theorem fill_token (w : Text) : fill replacement (token w :: pieces) =
    match valueOr replacement w with
    | .ok x => (fill replacement pieces).map (x ++ ·)
    | .error fault => .error fault := by
  rw [fill, valueOr]
  rcases replacement w with fault | x
  · rfl
  · rcases fill replacement pieces with fault | r
    · rfl
    · rfl

theorem fill_pieces_eq_ok_iff : fill replacement pieces = .ok r ↔
    ∃ parts, List.Forall₂ (BecomesBy (valueOr replacement)) pieces parts ∧ r = parts.flatten := by
  induction pieces generalizing r with
  | nil =>
      simp only [fill, List.forall₂_nil_left_iff, exists_eq_left, List.flatten_nil]
      constructor
      · rintro ⟨⟩
        rfl
      · rintro rfl
        rfl
  | cons p pieces ih =>
      -- the first piece gives its part, and the others theirs
      have hstep : fill replacement (p :: pieces) = .ok r ↔
          ∃ x rest, BecomesBy (valueOr replacement) p x ∧ fill replacement pieces = .ok rest ∧ r = x ++ rest := by
        rcases p with c | w
        · rw [fill_plain]
          rcases fill replacement pieces with fault | rest
          · simp [Except.map]
          · simp [Except.map, BecomesBy, eq_comm]
        · rw [fill_token]
          rcases hx : valueOr replacement w with fault | x
          · simp [BecomesBy, hx]
          · rcases fill replacement pieces with fault | rest
            · simp [Except.map]
            · simp [Except.map, BecomesBy, hx, eq_comm]
      rw [hstep]
      constructor
      · rintro ⟨x, rest, hx, hrest, rfl⟩
        obtain ⟨parts, hparts, rfl⟩ := ih.mp hrest
        exact ⟨x :: parts, .cons hx hparts, rfl⟩
      · rintro ⟨_, hparts, rfl⟩
        rcases hparts with _ | ⟨hx, hrest⟩
        exact ⟨_, _, hx, ih.mpr ⟨_, hrest, rfl⟩, rfl⟩

/-- Filling the scanned pieces replaces the tokens of the text, all at once. -/
theorem fill_eq_ok_iff : fill replacement (ofText t) = .ok r ↔ t.IsFilled (valueOr replacement) r := by
  rw [fill_pieces_eq_ok_iff]
  constructor
  · rintro ⟨parts, hparts, rfl⟩
    exact ⟨ofText t, parts, splits_ofText t, hparts, rfl⟩
  · rintro ⟨pieces, parts, hsplits, hparts, rfl⟩
    rw [splits_iff.mp hsplits]
    exact ⟨parts, hparts, rfl⟩

/-- A token among the pieces stands in the text. -/
theorem Splits.exists_tokenAt (h : Splits pieces t) (hw : token w ∈ pieces) : ∃ i, t.TokenAt i w := by
  obtain ⟨before, after, hpieces⟩ := List.append_of_mem hw
  exact ⟨_, (h.tokens _ w).mpr ⟨before, after, hpieces, rfl⟩⟩

/-- The name in a token. -/
def name? : Piece → Option Text
  | plain _ => none
  | token w => some w

end Piece

/-- The names of the tokens that stand in a text. -/
def Text.tokens (t : Text) : List Text := (Piece.ofText t).filterMap Piece.name?

theorem Text.TokenAt.mem_tokens (h : t.TokenAt i w) : w ∈ t.tokens := by
  obtain ⟨before, after, hpieces, -⟩ := ((Piece.splits_ofText t).tokens i w).mp h
  rw [tokens, hpieces, List.filterMap_append]
  exact List.mem_append_right _ List.mem_cons_self

namespace Text.IsFilled

variable {value other : Text → Except Fault Text}

/-- Only the values of tokens that stand in the text matter. -/
theorem imp (h : t.IsFilled value r)
    (hvalues : ∀ i w x, t.TokenAt i w → value w = .ok x → other w = .ok x) : t.IsFilled other r := by
  obtain ⟨pieces, parts, hsplits, hparts, rfl⟩ := h
  refine ⟨pieces, parts, hsplits, ?_, rfl⟩
  rw [List.forall₂_iff_zip] at hparts ⊢
  refine ⟨hparts.1, ?_⟩
  intro p x hzip
  have hbecomes := hparts.2 hzip
  rcases p with c | w
  · exact hbecomes
  · obtain ⟨i, hi⟩ := hsplits.exists_tokenAt (List.of_mem_zip hzip).1
    exact hvalues i w x hi hbecomes

/-- Filling comes to one text at most. -/
theorem unique (hr : t.IsFilled value r) (hx : t.IsFilled value x) : r = x := by
  obtain ⟨pieces, parts, hsplits, hparts, rfl⟩ := hr
  obtain ⟨others, more, hothers, hmore, rfl⟩ := hx
  obtain rfl : pieces = others := (Piece.splits_iff.mp hsplits).symm.trans (Piece.splits_iff.mp hothers)
  have hone : Relator.RightUnique (Piece.BecomesBy value) := by
    intro p x y hx hy
    rcases p with c | w
    · exact Eq.trans hx hy.symm
    · exact Except.ok.inj (Eq.trans hx.symm hy)
  rw [hone.forall₂ hparts hmore]

/-- A text of which all tokens stand for themselves comes to itself. -/
theorem self (h : ∀ i w, t.TokenAt i w → value w = .ok (Piece.written w)) : t.IsFilled value t := by
  have hsplits := Piece.splits_ofText t
  refine ⟨Piece.ofText t, (Piece.ofText t).map Piece.source, hsplits, ?_, ?_⟩
  · rw [List.forall₂_map_right_iff, List.forall₂_same]
    intro p hp
    rcases p with c | w
    · rfl
    · obtain ⟨i, hi⟩ := hsplits.exists_tokenAt hp
      exact h i w hi
  · rw [← List.flatMap_def, hsplits.source]

/-- There is nothing to replace where no token can open. -/
theorem of_no_brace (h : .scalar '{' ∉ t) : t.IsFilled value t := by
  apply self
  intro i w hw
  exact absurd (List.mem_of_getElem? hw.opens) h

end Text.IsFilled

end ChatFlow
