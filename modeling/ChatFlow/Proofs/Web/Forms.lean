import ChatFlow.Proofs.Json.RoundTrip
import ChatFlow.Proofs.Text.Cuts
import ChatFlow.Web.Headers

/-!
# The forms of headers

Headers come as an object, as a text that writes an object, or as lines. All forms of the same headers are read alike. A
text is tried as a document first, but lines never make an object, since these begin with a brace and no line does.

* `Json.exists_brace_of_read?`: an object is written behind a brace.
* `Headers.IsPlain`: headers that can be written in every form.
* `Headers.ofText_of_object`, `Headers.ofText_of_lines`: two forms of texts.
* `Headers.forms_agree`: all forms.
-/

namespace ChatFlow

/-! ## Texts that write objects -/

namespace Json

variable {fuel : Nat} {t r : Text} {v : Value} {fs : Fields Value}

theorem number?_ne_object {negative : Bool} (h : number? negative t = some (v, r)) : v ≠ .object fs := by
  unfold number? at h
  dsimp only at h
  split at h
  · cases h
  · split at h
    · split at h
      · cases h
      · cases h
        intro heq
        cases heq
    · cases h
      intro heq
      cases heq

theorem word?_ne_object (h : word? t = some (v, r)) : v ≠ .object fs := by
  obtain ⟨w, hw, hpair⟩ := Option.map_eq_some_iff.mp h
  have hmem := List.mem_of_find?_eq_some hw
  cases hpair
  simp only [words, List.mem_cons, List.not_mem_nil, or_false] at hmem
  rcases hmem with rfl | rfl | rfl | rfl | rfl | rfl
  all_goals
    intro heq
    cases heq

/-- A value that does not begin with a brace is no object. -/
theorem value?_ne_object (h : value? fuel t = some (v, r)) (hopen : ∀ r', t ≠ .scalar '\x7b' :: r') :
    v ≠ .object fs := by
  cases fuel with
  | zero => cases h
  | succ fuel =>
      rw [value?.eq_def] at h
      dsimp only at h
      split at h
      · obtain ⟨found, -, hfound⟩ := Option.bind_eq_some_iff.mp h
        cases hfound
        intro heq
        cases heq
      · split at h
        · cases h
          intro heq
          cases heq
        · obtain ⟨found, -, hfound⟩ := Option.bind_eq_some_iff.mp h
          cases hfound
          intro heq
          cases heq
      · next r' => exact absurd rfl (hopen r')
      · split at h
        · next found hword =>
            cases h
            exact word?_ne_object hword
        · split at h
          · exact number?_ne_object h
          · exact number?_ne_object h

/-- An object is written behind a brace. -/
theorem exists_brace_of_read? (h : read? t = some (.object fs)) : ∃ r, skipGap t = .scalar '\x7b' :: r := by
  unfold read? at h
  split at h
  · next v r hvalue =>
      split at h
      · cases h
        by_contra hnone
        exact value?_ne_object hvalue (fun r' heq => hnone ⟨r', heq⟩) rfl
      · cases h
  · cases h

end Json

/-! ## Headers -/

namespace Headers

variable {hs : Fields Text} {t : Text}

/-- A name or value of a header that stands between blanks on one line. -/
structure IsWord (t : Text) : Prop where
  ne_nil : t ≠ []
  trim_eq : t.trim = t
  onOneLine : t.OnOneLine

/-- Headers that can be written in every form. -/
structure IsPlain (hs : Fields Text) : Prop where
  nodup : hs.names.Nodup
  name : ∀ h ∈ hs, IsWord h.1 ∧ .scalar ':' ∉ h.1 ∧ h.1.head? ≠ some (.scalar '\x7b')
  value : ∀ h ∈ hs, IsWord h.2

instance : Decidable (IsWord t) :=
  decidable_of_iff (t ≠ [] ∧ t.trim = t ∧ ∀ c ∈ t, Text.isLineEnd c = false)
    ⟨fun ⟨hne, htrim, hline⟩ => ⟨hne, htrim, hline⟩, fun ⟨hne, htrim, hline⟩ => ⟨hne, htrim, hline⟩⟩

instance : Decidable (IsPlain hs) :=
  decidable_of_iff (hs.names.Nodup ∧
      (∀ h ∈ hs, IsWord h.1 ∧ .scalar ':' ∉ h.1 ∧ h.1.head? ≠ some (.scalar '\x7b')) ∧ ∀ h ∈ hs, IsWord h.2)
    ⟨fun ⟨hnodup, hname, hvalue⟩ => ⟨hnodup, hname, hvalue⟩, fun ⟨hnodup, hname, hvalue⟩ => ⟨hnodup, hname, hvalue⟩⟩

/-- The fields of an object that has the headers. -/
def toFields (hs : Fields Text) : Fields Value := hs.map fun (name, v) => (name, .text v)

/-- The line of a header. -/
def line (h : Text × Text) : Text := h.1 ++ ": " ++ h.2

theorem names_toFields (hs : Fields Text) : (toFields hs).names = hs.names := by
  rw [Fields.names, Fields.names, toFields, List.map_map]
  rfl

theorem ofFields_toFields (hs : Fields Text) : ofFields (toFields hs) = .ok hs := by
  induction hs with
  | nil => rfl
  | cons h hs ih =>
      unfold ofFields toFields at ih ⊢
      rw [List.map_cons, List.mapM_cons, ih]
      rfl

/-! ## Objects -/

/-- Whatever text writes the object, the headers are read from it. -/
theorem ofText_of_object (h : Json.read? t = some (.object (toFields hs))) : ofText t = .ok hs := by
  obtain ⟨r, hr⟩ := Json.exists_brace_of_read? h
  have hmem : .scalar '\x7b' ∈ t := by
    have hdropped : .scalar '\x7b' ∈ Json.skipGap t := hr ▸ List.mem_cons_self
    exact List.dropWhile_subset _ hdropped
  have hblank : t.isBlank = false := by
    refine Bool.eq_false_iff.mpr fun hall => ?_
    exact absurd (List.all_eq_true.mp hall _ hmem) (by decide)
  rw [ofText, hblank, if_neg Bool.false_ne_true, h]
  exact ofFields_toFields hs

/-- A format that tells all names and values from others writes the object so that it can be read. -/
theorem read?_text_toFields {style : Json.Style} (hnodup : hs.names.Nodup)
    (htells : ∀ h ∈ hs, style.Tells h.1 ∧ style.Tells h.2) :
    Json.read? (Json.text style (.object (toFields hs))) = some (.object (toFields hs)) := by
  refine Json.ReadsBack.read?_text (Json.readsBack_object ?_ ?_)
  · rwa [names_toFields]
  · intro f hf
    obtain ⟨h, hmem, rfl⟩ := List.mem_map.mp hf
    exact ⟨(htells h hmem).1, Json.readsBack_text (htells h hmem).2⟩

/-! ## Lines -/

/-- The line of a header is read as the header. -/
theorem ofLine?_line {h : Text × Text} (hname : IsWord h.1) (hcolon : .scalar ':' ∉ h.1) (hvalue : IsWord h.2) :
    ofLine? (line h) = some h := by
  have hparts : Text.partition ':' (line h) = (h.1, some (.scalar ' ' :: h.2)) := by
    have hline : line h = h.1 ++ .scalar ':' :: .scalar ' ' :: h.2 := by
      rw [line, List.append_assoc]
      rfl
    rw [hline]
    exact Text.partition_append hcolon _
  have htrim : Text.trim (.scalar ' ' :: h.2) = h.2 := by
    rw [Text.trim_cons_of_blank (by decide), hvalue.trim_eq]
  have hempty : (h.1.isEmpty || h.2.isEmpty) = false := by
    rw [List.isEmpty_eq_false_iff.mpr hname.ne_nil, List.isEmpty_eq_false_iff.mpr hvalue.ne_nil]
    rfl
  rw [ofLine?, hparts]
  simp only [Option.getD_some, hname.trim_eq, htrim, hempty, Bool.false_eq_true, if_false]

theorem ofLines_map_line (h : IsPlain hs) : ofLines (hs.map line) = hs := by
  have hread : (hs.map line).filterMap ofLine? = hs := by
    rw [List.filterMap_map]
    refine (List.filterMap_congr fun x hx => ?_).trans (List.filterMap_some)
    exact ofLine?_line (h.name x hx).1 (h.name x hx).2.1 (h.value x hx)
  rw [ofLines, hread]
  exact Fields.ofList_of_nodup h.nodup

/-- A blank between the parts of a document is a blank. -/
theorem isGap_of_not_blank {c : CodePoint} (hc : c.isBlank = false) : Json.isGap c = false := by
  refine Bool.eq_false_iff.mpr fun hgap => ?_
  simp only [Json.isGap, Bool.or_eq_true, beq_iff_eq] at hgap
  rcases hgap with ((rfl | rfl) | rfl) | rfl
  all_goals exact absurd hc (by decide)

/-- A text begins as its first header does. -/
theorem exists_of_lines {h : Text × Text} (hname : IsWord h.1) (hlines : t.lines = (h :: hs).map line) :
    ∃ c r, t = c :: r ∧ h.1.head? = some c ∧ c.isBlank = false := by
  obtain ⟨c, name, hhead⟩ := List.exists_cons_of_ne_nil hname.ne_nil
  have hfirst : line h = c :: (name ++ ": " ++ h.2) := by
    rw [line, hhead]
    rfl
  rw [List.map_cons, hfirst] at hlines
  obtain ⟨r, rfl⟩ := Text.exists_of_lines hlines
  have hfront : h.1.head? = some c := by rw [hhead, List.head?_cons]
  exact ⟨c, r, rfl, hfront, Text.isBlank_head?_of_trim hname.trim_eq c hfront⟩

/-- Whatever text has the lines, the headers are read from it. -/
theorem ofText_of_lines (h : IsPlain hs) (hlines : t.lines = hs.map line) : ofText t = .ok hs := by
  have hread : ofLines t.lines = hs := by rw [hlines, ofLines_map_line h]
  rcases hs with _ | ⟨x, hs⟩
  · rw [Text.eq_nil_of_lines hlines]
    rfl
  · obtain ⟨c, r, rfl, hfront, hblank⟩ := exists_of_lines (h.name x List.mem_cons_self).1 hlines
    have hfilled : Text.isBlank (c :: r) = false := by
      rw [Text.isBlank, List.all_cons, hblank, Bool.false_and]
    rw [ofText, hfilled, if_neg Bool.false_ne_true]
    split
    · next fs hobject =>
        -- the text would have to begin with a brace
        obtain ⟨r', hopen⟩ := Json.exists_brace_of_read? hobject
        rw [Json.skipGap_of_head (isGap_of_not_blank hblank)] at hopen
        refine absurd ?_ (h.name x List.mem_cons_self).2.2
        rw [hfront, (List.cons.inj hopen).1]
    · rw [hread]

theorem onOneLine_line {h : Text × Text} (hname : IsWord h.1) (hvalue : IsWord h.2) : (line h).OnOneLine := by
  intro c hc
  rw [line, List.mem_append, List.mem_append] at hc
  rcases hc with (hc | hc) | hc
  · exact hname.onOneLine c hc
  · exact (by decide : ∀ c ∈ (": " : Text), Text.isLineEnd c = false) c hc
  · exact hvalue.onOneLine c hc

/-- All forms of the same headers are read as these: the object; a text that writes it, in any format that tells the
names and values from others; and a text that has the lines, such as the lines joined by line feeds. -/
theorem forms_agree (h : IsPlain hs) :
    ofFields (toFields hs) = .ok hs ∧
    (∀ t, Json.read? t = some (.object (toFields hs)) → ofText t = .ok hs) ∧
    (∀ style : Json.Style, (∀ h ∈ hs, style.Tells h.1 ∧ style.Tells h.2) →
      ofText (Json.text style (.object (toFields hs))) = .ok hs) ∧
    (∀ t : Text, t.lines = hs.map line → ofText t = .ok hs) ∧
    ofText (Text.join "\n" (hs.map line)) = .ok hs := by
  refine ⟨ofFields_toFields hs, fun t => ofText_of_object, ?_, fun t => ofText_of_lines h, ?_⟩
  · intro style htells
    exact ofText_of_object (read?_text_toFields h.nodup htells)
  · refine ofText_of_lines h (Text.lines_join ?_ ?_)
    · rintro t ht
      obtain ⟨x, hx, rfl⟩ := List.mem_map.mp ht
      exact onOneLine_line (h.name x hx).1 (h.value x hx)
    · rintro t ht
      obtain ⟨x, hx, rfl⟩ := List.mem_map.mp ht
      exact List.append_ne_nil_of_right_ne_nil _ (h.value x hx).ne_nil

/-- The headers of a request, with a value that looks like a line and one that looks like an object. -/
def sampleHeaders : Fields Text := [("Referer", "http://a.b: c"), ("[1]", "\x7b\"k\": 1\x7d")]

/-- The object and the lines of the sample. -/
theorem forms_agree_of_sample :
    IsPlain sampleHeaders ∧
      ofText "\x7b\"Referer\": \"http://a.b: c\", \"[1]\": \"\x7b\\\"k\\\": 1\x7d\"\x7d" = .ok sampleHeaders ∧
      ofText "Referer: http://a.b: c\n[1]: \x7b\"k\": 1\x7d" = .ok sampleHeaders := by
  have hplain : IsPlain sampleHeaders := by decide
  obtain ⟨-, hobject, -, -, hlines⟩ := forms_agree hplain
  exact ⟨hplain, hobject _ (by decide +kernel), hlines⟩

end Headers

end ChatFlow
