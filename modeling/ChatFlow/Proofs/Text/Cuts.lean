import ChatFlow.Unicode.Classes
import Mathlib.Data.List.TakeWhile

/-!
# Where texts are cut

A text is cut at its first separator, at its line ends, or at the blanks around it. Here is what the parts are, and how
a text that was put together from parts falls into them again.

* `Text.partition_append`, `eq_of_partition`: the parts before and behind the first separator.
* `Text.exists_splitChar`: the piece before the first separator is the same for both ways of cutting.
* `Text.trim_of_ends`, `trim_subset`: what is left between the blanks.
* `Text.lines_append`, `exists_of_lines`, `lines_join`: lines.
-/

namespace ChatFlow.Text

variable {t line : Text} {c sep : CodePoint}

/-! ## The first separator -/

theorem partition_append {before : Text} (h : sep ∉ before) (after : Text) :
    partition sep (before ++ sep :: after) = (before, some after) := by
  induction before with
  | nil => rw [List.nil_append, partition, if_pos rfl]
  | cons c before ih =>
      obtain ⟨hc, hrest⟩ := not_or.mp (mt List.mem_cons.mpr h)
      rw [List.cons_append, partition, if_neg (Ne.symm hc), ih hrest]

theorem eq_of_partition {before after : Text} (h : partition sep t = (before, some after)) :
    t = before ++ sep :: after := by
  induction t generalizing before with
  | nil => cases h
  | cons c t ih =>
      rw [partition] at h
      split at h
      · next hc =>
          cases h
          rw [hc, List.nil_append]
      · rcases hrest : partition sep t with ⟨front, back⟩
        rw [hrest] at h
        cases h
        rw [List.cons_append, ← ih hrest]

/-- No separator stands before the first one. -/
theorem notMem_partition (sep : CodePoint) (t : Text) : sep ∉ (partition sep t).1 := by
  induction t with
  | nil => exact List.not_mem_nil
  | cons c t ih =>
      rw [partition]
      split
      · exact List.not_mem_nil
      · next hc =>
          intro hmem
          rcases List.mem_cons.mp hmem with heq | hrest
          · exact hc heq.symm
          · exact ih hrest

/-- The first piece is what stands before the first separator. -/
theorem exists_splitChar (sep : CodePoint) (t : Text) :
    ∃ pieces, splitChar sep t = (partition sep t).1 :: pieces := by
  induction t with
  | nil => exact ⟨[], rfl⟩
  | cons c t ih =>
      obtain ⟨pieces, hpieces⟩ := ih
      rw [splitChar, hpieces, partition]
      dsimp only
      split
      · exact ⟨_, rfl⟩
      · exact ⟨pieces, rfl⟩

/-! ## Blanks at the ends -/

theorem trim_of_ends (hfirst : ∀ c ∈ t.head?, c.isBlank = false) (hlast : ∀ c ∈ t.getLast?, c.isBlank = false) :
    t.trim = t := by
  have hdrop : ∀ {u : Text}, (∀ c ∈ u.head?, c.isBlank = false) → u.dropWhile CodePoint.isBlank = u := by
    intro u hu
    cases u with
    | nil => rfl
    | cons c u => rw [List.dropWhile_cons_of_neg (by rw [hu c rfl]; decide)]
  rw [trim, trimBy, hdrop hfirst, hdrop (by rwa [List.head?_reverse]), List.reverse_reverse]

/-- Trimming adds nothing. -/
theorem trim_subset (t : Text) : t.trim ⊆ t := by
  intro c hc
  rw [trim, trimBy, List.mem_reverse] at hc
  exact List.dropWhile_subset _ (List.mem_reverse.mp (List.dropWhile_subset _ hc))

theorem mem_dropWhile_of_not {α : Type} {p : α → Bool} {l : List α} {a : α} (h : a ∈ l) (ha : p a = false) :
    a ∈ l.dropWhile p := by
  rw [← List.takeWhile_append_dropWhile (p := p) (l := l)] at h
  rcases List.mem_append.mp h with htaken | hdropped
  · have hp : p a = true := List.mem_takeWhile_imp htaken
    rw [ha] at hp
    cases hp
  · exact hdropped

/-- Trimming takes nothing but blanks. -/
theorem mem_trim (h : c ∈ t) (hc : c.isBlank = false) : c ∈ t.trim := by
  rw [trim, trimBy, List.mem_reverse]
  apply mem_dropWhile_of_not _ hc
  rw [List.mem_reverse]
  exact mem_dropWhile_of_not h hc

/-- Blanks in front are trimmed away. -/
theorem trim_cons_of_blank (hc : c.isBlank = true) (t : Text) : trim (c :: t) = t.trim := by
  rw [trim, trimBy, List.dropWhile_cons_of_pos hc]
  rfl

/-- A text that is trimmed begins with no blank. -/
theorem isBlank_head?_of_trim (h : t.trim = t) : ∀ c ∈ t.head?, c.isBlank = false := by
  intro c hc
  obtain ⟨r, rfl⟩ : ∃ r, t = c :: r := List.head?_eq_some_iff.mp hc
  refine Bool.eq_false_iff.mpr fun hblank => ?_
  -- a blank in front would make the text longer than what is left of it
  have hlonger : (c :: r).length ≤ r.length := by
    calc (c :: r).length = (trim (c :: r)).length := by rw [h]
      _ = (trim r).length := by rw [trim_cons_of_blank hblank]
      _ ≤ r.length := by
        rw [trim, trimBy, List.length_reverse]
        refine Nat.le_trans (List.dropWhile_sublist _).length_le ?_
        rw [List.length_reverse]
        exact (List.dropWhile_sublist _).length_le
  rw [List.length_cons] at hlonger
  omega

/-! ## Lines -/

/-- The text has no line end. -/
def OnOneLine (t : Text) : Prop := ∀ c ∈ t, isLineEnd c = false

theorem ne_return_of_isLineEnd (h : isLineEnd c = false) : c ≠ .scalar '\r' := by
  rintro rfl
  exact absurd h (by decide)

/-- A code point inside a line goes to the line behind it. -/
theorem lines_cons (hc : isLineEnd c = false) (t : Text) : lines (c :: t) =
    match lines t with
    | [] => [[c]]
    | line :: rest => (c :: line) :: rest := by
  rw [lines]
  · refine (if_neg (Bool.eq_false_iff.mp hc)).trans ?_
    cases lines t with
    | nil => rfl
    | cons line rest => rfl
  · rintro r rfl -
    exact ne_return_of_isLineEnd hc rfl

/-- A text with one line is this line. -/
theorem lines_of_onOneLine (h : t.OnOneLine) (hne : t ≠ []) : t.lines = [t] := by
  induction t with
  | nil => exact absurd rfl hne
  | cons c t ih =>
      rw [OnOneLine, List.forall_mem_cons] at h
      rw [lines_cons h.1]
      cases t with
      | nil => rfl
      | cons d t => rw [ih h.2 (List.cons_ne_nil d t)]

/-- A line ends before the first line end. -/
theorem lines_append (h : line.OnOneLine) (t : Text) : lines (line ++ .scalar '\n' :: t) = line :: lines t := by
  induction line with
  | nil => rfl
  | cons c line ih =>
      rw [OnOneLine, List.forall_mem_cons] at h
      rw [List.cons_append, lines_cons h.1, ih h.2]

/-- Only the empty text has no lines. -/
theorem eq_nil_of_lines (h : t.lines = []) : t = [] := by
  unfold Text.lines at h
  split at h
  · rfl
  · cases h
  · split at h
    · cases h
    · split at h <;> cases h

/-- A text begins as its first line does. -/
theorem exists_of_lines {lines : List Text} (h : t.lines = (c :: line) :: lines) : ∃ r, t = c :: r := by
  unfold Text.lines at h
  split at h
  · cases h
  · cases h
  · next d r _ =>
      split at h
      · cases h
      · refine ⟨r, ?_⟩
        split at h <;> cases h <;> rfl

/-- Lines that are joined by line feeds come apart into the same lines. -/
theorem lines_join {ts : List Text} (hline : ∀ t ∈ ts, t.OnOneLine) (hne : ∀ t ∈ ts, t ≠ []) :
    lines (join [.scalar '\n'] ts) = ts := by
  induction ts with
  | nil => rfl
  | cons t ts ih =>
      rw [List.forall_mem_cons] at hline hne
      cases ts with
      | nil => exact lines_of_onOneLine hline.1 hne.1
      | cons u ts =>
          rw [join, List.append_assoc, List.singleton_append, lines_append hline.1, ih hline.2 hne.2]
          exact List.cons_ne_nil u ts

end ChatFlow.Text
