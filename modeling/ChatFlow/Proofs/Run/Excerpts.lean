import ChatFlow.Proofs.Run.Alike
import ChatFlow.Proofs.Template.Names
import ChatFlow.Proofs.Text.Cuts
import ChatFlow.Proofs.Text.Scalars
import ChatFlow.Run.TextWork

/-!
# Parts and repetitions of texts

An action cuts a part out of a text, between two positions that are written with a comma between them, or repeats it as
often as is written, up to a hundred times. Positions count from the beginning, or from the end if they are negative.
A zero is taken for a number that is not there: as the second position it stands for the end of the text, and as a
number of repetitions for one.

* `Text.excerpt`: the code points between two positions.
* `Text.slice_eq_excerpt`: what is cut out of a text.
* `Text.Begins`: an integer that a text begins with, and `Text.Begins.leadingInteger_eq`, how it is read.
* `Act.edits_unless_zero`: what the action keeps.
-/

namespace ChatFlow

namespace Text

variable {t rest : Text} {c : CodePoint}

/-! ## Code points between two positions -/

/-- A position counted from the beginning of a text; a negative one counts from the end. -/
def fromStart (t : Text) (n : Int) : Int := if n < 0 then t.length + n else n

/-- The code points of a text from a position on, and before another one if there is one. -/
def excerpt (t : Text) (start : Int) (stop : Option Int) : Text :=
  (t.zipIdx.filter fun (_, i) => t.fromStart start ≤ i ∧ ∀ n ∈ stop, i < t.fromStart n).map Prod.fst

/-- What is left of a list between two places; those of the list count from `k`. -/
theorem map_fst_filter_zipIdx {α : Type} (xs : List α) (first last k : Nat) :
    ((xs.zipIdx k).filter fun (_, i) => first ≤ i ∧ i < last).map Prod.fst =
      (xs.take (last - k)).drop (first - k) := by
  induction xs generalizing k with
  | nil => simp
  | cons x xs ih =>
      rw [List.zipIdx_cons, List.filter_cons]
      by_cases hlast : k < last
      · have htake : last - k = last - (k + 1) + 1 := by omega
        rw [htake, List.take_succ_cons]
        by_cases hfirst : first ≤ k
        · have hnone : first - k = 0 := by omega
          have hnone' : first - (k + 1) = 0 := by omega
          rw [if_pos (by simp [hfirst, hlast]), List.map_cons, ih, hnone, hnone', List.drop_zero, List.drop_zero]
        · have hdrop : first - k = first - (k + 1) + 1 := by omega
          rw [if_neg (by simp [hfirst]), ih, hdrop, List.drop_succ_cons]
      · have hnone : last - k = 0 := by omega
        have hnone' : last - (k + 1) = 0 := by omega
        rw [if_neg (by simp [hlast]), ih, hnone, hnone', List.take_zero, List.take_zero, List.drop_nil, List.drop_nil]

/-- Within a text, a position may be clipped to it. -/
theorem clip_le_iff {i : Nat} (hi : i < t.length) (n : Int) : clip t.length n ≤ i ↔ t.fromStart n ≤ i := by
  unfold clip fromStart
  split <;> omega

/-- What is cut out of a text are the code points between the positions. -/
theorem slice_eq_excerpt (t : Text) (start : Int) (stop : Option Int) : t.slice start stop = t.excerpt start stop := by
  have hcut := map_fst_filter_zipIdx t (clip t.length start) ((stop.map (clip t.length)).getD t.length) 0
  rw [Nat.sub_zero, Nat.sub_zero] at hcut
  rw [slice, excerpt, ← hcut]
  refine congrArg (List.map Prod.fst) (List.filter_congr fun ⟨c, i⟩ hmem => ?_)
  have hi : i < t.length := by
    have := List.snd_lt_of_mem_zipIdx hmem
    omega
  have hstart := clip_le_iff hi start
  cases stop with
  | none => simp [hstart, hi]
  | some n =>
      have hstop := clip_le_iff hi n
      simp only [hstart, Option.map_some, Option.getD_some, Option.mem_def, Option.some.injEq, forall_eq',
        decide_eq_decide]
      omega

/-! ## Integers at the beginning -/

/-- Digits are taken up to what is none. -/
theorem takeWhile_isDecimal {ds : Text} (hds : ∀ c ∈ ds, c.isDecimal = true)
    (hrest : ∀ c ∈ rest.head?, c.isDecimal = false) : (ds ++ rest).takeWhile CodePoint.isDecimal = ds := by
  induction ds with
  | nil =>
      cases rest with
      | nil => rfl
      | cons c rest => rw [List.nil_append, List.takeWhile_cons_of_neg (by rw [hrest c rfl]; decide)]
  | cons d ds ih =>
      rw [List.cons_append, List.takeWhile_cons_of_pos (hds d List.mem_cons_self),
        ih fun c hc => hds c (List.mem_cons_of_mem d hc)]

/-- Is a minus sign at the beginning, and what stands behind a sign? -/
def signed? (t : Text) : Bool × Text :=
  match t with
  | .scalar '-' :: r => (true, r)
  | .scalar '+' :: r => (false, r)
  | _ => (false, t)

theorem signed?_of_isDecimal (hc : c.isDecimal = true) (t : Text) : signed? (c :: t) = (false, c :: t) := by
  unfold signed?
  split
  · next h => exact absurd (List.cons.inj h).1 (CodePoint.ne_of_isDecimal (by decide) hc)
  · next h => exact absurd (List.cons.inj h).1 (CodePoint.ne_of_isDecimal (by decide) hc)
  · rfl

/-- The text begins with an integer that is written with so many digits; blanks and a sign may precede them. -/
def Begins (t : Text) (n : Int) (count : Nat) : Prop :=
  ∃ blanks sign ds rest : Text, t = blanks ++ (sign ++ (ds ++ rest)) ∧ (∀ c ∈ blanks, c.isBlank = true) ∧
    sign ∈ (["", "+", "-"] : List Text) ∧ ds.IsNumeral ∧ ds.length = count ∧
    (∀ c ∈ rest.head?, c.isDecimal = false) ∧ n = if sign = "-" then -(ds.numeralValue : Int) else ds.numeralValue

/-- Behind blanks and a sign stand the digits. -/
theorem signed?_dropWhile {blanks sign ds : Text} (hblanks : ∀ c ∈ blanks, c.isBlank = true)
    (hsign : sign ∈ (["", "+", "-"] : List Text)) (hds : ds.IsNumeral) :
    signed? ((blanks ++ (sign ++ (ds ++ rest))).dropWhile CodePoint.isBlank) = (decide (sign = "-"), ds ++ rest) := by
  rw [List.dropWhile_append_of_pos hblanks]
  rw [List.mem_cons, List.mem_cons, List.mem_singleton] at hsign
  rcases hsign with rfl | rfl | rfl
  · -- what begins with a digit begins with neither a blank nor a sign
    obtain ⟨c, ds, rfl⟩ := List.exists_cons_of_ne_nil hds.1
    have hc := hds.2 c List.mem_cons_self
    have hblank : ¬ c.isBlank = true := by
      rw [CodePoint.isBlank_of_isDecimal hc]
      exact Bool.false_ne_true
    exact (congrArg signed? (List.dropWhile_cons_of_neg hblank)).trans (signed?_of_isDecimal hc _)
  · rfl
  · rfl

/-- The integer of the digits that a text begins with, if there are any. -/
def signedInteger (negative : Bool) (t : Text) : Except Fault (Option Int) :=
  match t.takeWhile CodePoint.isDecimal with
  | [] => .ok none
  | ds => (decimalNumber ds).map fun n => some (if negative then -(n : Int) else n)

theorem leadingInteger_eq_signedInteger (t : Text) :
    t.leadingInteger =
      signedInteger (signed? (t.dropWhile CodePoint.isBlank)).1 (signed? (t.dropWhile CodePoint.isBlank)).2 := rfl

/-- Digits are read, unless there are too many. -/
theorem signedInteger_append {ds : Text} (negative : Bool) (hds : ds.IsNumeral)
    (hrest : ∀ c ∈ rest.head?, c.isDecimal = false) :
    signedInteger negative (ds ++ rest) = if maxIntegerDigits < ds.length then .error .integerTooLong
      else .ok (some (if negative then -(ds.numeralValue : Int) else ds.numeralValue)) := by
  obtain ⟨c, ds, rfl⟩ := List.exists_cons_of_ne_nil hds.1
  rw [signedInteger, takeWhile_isDecimal hds.2 hrest]
  dsimp only
  rw [decimalNumber_eq]
  by_cases hlong : maxIntegerDigits < (c :: ds).length
  · rw [if_pos hlong, if_pos hlong]
    rfl
  · rw [if_neg hlong, if_neg hlong]
    rfl

/-- An integer that a text begins with is read, unless it has too many digits. -/
theorem Begins.leadingInteger_eq {n : Int} {count : Nat} (h : t.Begins n count) :
    t.leadingInteger = if maxIntegerDigits < count then .error .integerTooLong else .ok (some n) := by
  obtain ⟨blanks, sign, ds, rest, rfl, hblanks, hsign, hds, rfl, hrest, rfl⟩ := h
  rw [leadingInteger_eq_signedInteger, signed?_dropWhile hblanks hsign hds, signedInteger_append _ hds hrest]
  by_cases hminus : sign = "-"
  · rw [decide_eq_true hminus, if_pos hminus, if_pos rfl]
  · rw [decide_eq_false hminus, if_neg hminus, if_neg Bool.false_ne_true]

theorem Begins.ne_nil {n : Int} {count : Nat} (h : t.Begins n count) : t ≠ [] := by
  obtain ⟨blanks, sign, ds, rest, rfl, -, -, hds, -⟩ := h
  intro hnil
  exact hds.1 (List.append_eq_nil_iff.mp (List.append_eq_nil_iff.mp (List.append_eq_nil_iff.mp hnil).2).2).1

/-- What writes an integer begins with it. -/
theorem begins_ofInt (n : Int) : (ofInt n).Begins n (ofNat n.natAbs).length := by
  have hempty : ∀ c ∈ ([] : Text), c.isBlank = true := fun _ hc => absurd hc List.not_mem_nil
  have hnone : ∀ c ∈ ([] : Text).head?, c.isDecimal = false := by simp
  by_cases hn : n < 0
  · refine ⟨[], "-", ofNat n.natAbs, [], ?_, hempty, by decide, isNumeral_ofNat _, rfl, hnone, ?_⟩
    · rw [ofInt, if_pos hn, List.append_nil, List.nil_append]
    · rw [if_pos rfl, numeralValue_ofNat]
      omega
  · refine ⟨[], "", ofNat n.natAbs, [], ?_, hempty, by decide, isNumeral_ofNat _, rfl, hnone, ?_⟩
    · rw [ofInt, if_neg hn, List.append_nil, List.nil_append]
      rfl
    · rw [if_neg (by decide), numeralValue_ofNat]
      omega

/-! ## Repetitions -/

theorem times_zero (t : Text) : t.times 0 = [] := rfl

theorem times_one (t : Text) : t.times 1 = t := List.append_nil t

/-- No code point is before the first one. -/
theorem excerpt_zero (t : Text) (start : Int) : t.excerpt start (some 0) = [] := by
  rw [excerpt, List.map_eq_nil_iff, List.filter_eq_nil_iff]
  rintro ⟨c, i⟩ -
  simp [fromStart]

end Text

namespace Act

variable {sc sc₁ sc₂ : Scene} {m : Message} {d : ActionData} {t s : Text} {a b : Int} {k l : Nat}

/-! ## The operations -/

theorem substring_of_partition {range before : Text} {after : Option Text} (hrange : range ≠ [])
    (hparts : Text.partition ',' range = (before, after)) : substring t range = (do
      let start ← before.leadingInteger
      let stop ← (after.getD []).leadingInteger
      return t.excerpt (start.getD 0) (stop.filter (· ≠ 0))) := by
  have hfull : ¬ range.isEmpty = true := by rwa [List.isEmpty_iff]
  rw [substring, if_neg hfull, hparts]
  simp only [Text.slice_eq_excerpt]

/-- Between two positions; a second one of zero stands for the end. -/
theorem substring_of_begins {before after : Text} (hcomma : .scalar ',' ∉ before) (hstart : before.Begins a k)
    (hstop : after.Begins b l) : substring t (before ++ .scalar ',' :: after) =
      if maxIntegerDigits < max k l then .error .integerTooLong
      else .ok (t.excerpt a (if b = 0 then none else some b)) := by
  rw [substring_of_partition (List.append_ne_nil_of_right_ne_nil _ (List.cons_ne_nil _ _))
    (Text.partition_append hcomma after), hstart.leadingInteger_eq, Option.getD_some, hstop.leadingInteger_eq]
  by_cases hk : maxIntegerDigits < k
  · rw [if_pos hk, if_pos (lt_max_of_lt_left hk)]
    rfl
  by_cases hl : maxIntegerDigits < l
  · rw [if_neg hk, if_pos hl, if_pos (lt_max_of_lt_right hl)]
    rfl
  · rw [if_neg hk, if_neg hl, if_neg (not_lt.mpr (max_le (not_lt.mp hk) (not_lt.mp hl)))]
    by_cases hb : b = 0
    · rw [if_pos hb, hb]
      rfl
    · rw [if_neg hb]
      have hkept : (some b).filter (· ≠ 0) = some b := by simp [hb]
      exact congrArg (fun stop => Except.ok (t.excerpt a stop)) hkept

/-- From a position on. -/
theorem substring_of_begins_alone (hcomma : .scalar ',' ∉ s) (hstart : s.Begins a k) :
    substring t s = if maxIntegerDigits < k then .error .integerTooLong else .ok (t.excerpt a none) := by
  rw [substring_of_partition hstart.ne_nil (Text.partition_of_not_mem hcomma), hstart.leadingInteger_eq]
  split
  · rfl
  · rfl

theorem repeated_of_begins (h : s.Begins a k) : repeated t s =
    if maxIntegerDigits < k then .error .integerTooLong
    else .ok (t.times (if a = 0 then 1 else (min (max a 0) maxTimes).toNat)) := by
  rw [repeated, h.leadingInteger_eq]
  by_cases hk : maxIntegerDigits < k
  · rw [if_pos hk, if_pos hk]
    rfl
  · rw [if_neg hk, if_neg hk]
    refine congrArg (fun n => Except.ok (t.times n)) ?_
    by_cases ha : a = 0
    · rw [if_pos ha, ha]
      rfl
    · have hkept : (some a).filter (· ≠ 0) = some a := by simp [ha]
      rw [if_neg ha, hkept, Option.getD_some]
      omega

/-! ## The action -/

/-- The variable that the text is kept in. -/
def textName (d : ActionData) : Text := if d.resultVar.isEmpty then "string_result" else d.resultVar

/-- What the action leaves that makes a text out of integers with at most so many digits. -/
def edited (d : ActionData) (sc : Scene) (digits : Nat) (u : Text) : Except Fault Unit × Scene :=
  if maxIntegerDigits < digits then (.error .integerTooLong, sc)
  else (.ok (), { sc with context := sc.context.set (textName d) (.text u) })

/-- The action fills in its texts, makes one out of them and keeps it. -/
theorem run_edit {op : TextOp} {r : Except Fault Text} {u : Text} (hop : TextOp.ofLabel? d.stringKind = some op)
    (hfirst : (render m d.input1).run.run sc = (.ok t, sc₁))
    (hsecond : (render m d.input2).run.run sc₁ = (.ok s, sc₂))
    (hmakes : editWith op d.target t s = (do return .text (← lift r)))
    (hr : r = if maxIntegerDigits < k then .error .integerTooLong else .ok u) :
    (edit d m).run.run sc = edited d sc₂ k u := by
  unfold edit
  rw [run_bind, hfirst]
  dsimp only
  rw [run_bind, hsecond, hop]
  dsimp only
  rw [hmakes, hr, edited]
  split
  · rfl
  · rfl

/-- An action that cuts out a part between two positions keeps the code points between them, and one that is given only
the first position all those from it on, but for a second position of zero, which leaves all of them, too. An action
that repeats a text keeps it as often as is written, up to a hundred times and not at all for a negative number, but
once for zero. Only integers of too many digits make the action fail. -/
theorem edits_unless_zero (hfirst : (render m d.input1).run.run sc = (.ok t, sc₁))
    (hsecond : (render m d.input2).run.run sc₁ = (.ok s, sc₂)) :
    (d.stringKind ∈ (["substr", "substring"] : List Text) →
      (∀ (before after : Text) (a b : Int) (k l : Nat), s = before ++ .scalar ',' :: after → .scalar ',' ∉ before →
        before.Begins a k → after.Begins b l →
        ∃ u, (edit d m).run.run sc = edited d sc₂ (max k l) u ∧
          (b ≠ 0 → u = t.excerpt a (some b)) ∧ (b = 0 → u = t.excerpt a none) ∧
          (u = t.excerpt a (some b) ↔ b ≠ 0 ∨ t.excerpt a none = [])) ∧
      ∀ a k, .scalar ',' ∉ s → s.Begins a k → (edit d m).run.run sc = edited d sc₂ k (t.excerpt a none)) ∧
    (d.stringKind = "repeat" → ∀ c k, s.Begins c k →
      ∃ u, (edit d m).run.run sc = edited d sc₂ k u ∧
        (c ≠ 0 → u = t.times (min (max c 0) 100).toNat) ∧ (c = 0 → u = t) ∧
        (u = t.times (min (max c 0) 100).toNat ↔ c ≠ 0 ∨ t = [])) := by
  constructor
  · intro hkind
    have hop : TextOp.ofLabel? d.stringKind = some .substring := by
      rw [List.mem_cons, List.mem_singleton] at hkind
      rcases hkind with hkind | hkind
      · rw [hkind]
        rfl
      · rw [hkind]
        rfl
    constructor
    · rintro before after a b k l rfl hcomma hstart hstop
      refine ⟨_, run_edit hop hfirst hsecond rfl (substring_of_begins hcomma hstart hstop),
        fun hb => by rw [if_neg hb], fun hb => by rw [if_pos hb], ?_⟩
      by_cases hb : b = 0
      · rw [if_pos hb, hb, Text.excerpt_zero]
        simp
      · rw [if_neg hb]
        simp [hb]
    · intro a k hcomma hstart
      exact run_edit hop hfirst hsecond rfl (substring_of_begins_alone hcomma hstart)
  · intro hkind c k hcount
    have hop : TextOp.ofLabel? d.stringKind = some .times := by
      rw [hkind]
      rfl
    refine ⟨_, run_edit hop hfirst hsecond rfl (repeated_of_begins hcount), fun hc => by rw [if_neg hc]; rfl,
      fun hc => by rw [if_pos hc, Text.times_one], ?_⟩
    by_cases hc : c = 0
    · rw [if_pos hc, hc, Text.times_one]
      simp [Text.times_zero]
    · rw [if_neg hc]
      simp [hc, maxTimes]

/-- An action that works on texts. -/
def sampleEdit (kind first second : Text) : ActionData :=
  { (default : ActionData) with stringKind := kind, input1 := first, input2 := second }

/-- From the second code point on and before the last but one. -/
theorem edits_unless_zero_of_sample :
    let d := sampleEdit "substring" "abcdef" "1,-2"
    let m : Message := ⟨.ofUser "u", "hi"⟩
    let sc : Scene := ⟨sampleWorld .empty, .start []⟩
    ((render m d.input1).run.run sc = (.ok "abcdef", sc) ∧ (render m d.input2).run.run sc = (.ok "1,-2", sc)) ∧
      (edit d m).run.run sc = (.ok (), { sc with context := sc.context.set "string_result" (.text "bcd") }) := by
  intro d m sc
  have hfirst : (render m d.input1).run.run sc = (.ok "abcdef", sc) := run_render_of_no_brace m sc (by decide)
  have hsecond : (render m d.input2).run.run sc = (.ok "1,-2", sc) := run_render_of_no_brace m sc (by decide)
  obtain ⟨hcuts, -⟩ := edits_unless_zero (d := d) hfirst hsecond
  obtain ⟨hbetween, -⟩ := hcuts (by decide)
  have hstop : Text.Begins "-2" (-2) 1 := by
    have hwritten : Text.ofInt (-2) = "-2" := by decide
    rw [← hwritten]
    exact Text.begins_ofInt (-2)
  obtain ⟨u, hrun, hpart, -⟩ := hbetween "1" "-2" 1 (-2) 1 1 rfl (by decide) (Text.begins_ofInt 1) hstop
  rw [hpart (by decide)] at hrun
  exact ⟨⟨hfirst, hsecond⟩, hrun⟩

/-- Up to the position zero everything is cut out, and repeated no times a text is there once. -/
theorem edit_keeps_at_zero :
    let m : Message := ⟨.ofUser "u", "hi"⟩
    let sc : Scene := ⟨sampleWorld .empty, .start []⟩
    let kept (kind first second : Text) :=
      ((edit (sampleEdit kind first second) m).run.run sc).2.context.get "string_result"
    (kept "substring" "abcdef" "1,0" = .text "bcdef" ∧ Text.excerpt "abcdef" 1 (some 0) = []) ∧
      kept "repeat" "ab" "0" = .text "ab" ∧ Text.times (min (max (0 : Int) 0) 100).toNat "ab" = [] := by
  decide +kernel

end Act

end ChatFlow
