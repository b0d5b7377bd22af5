import ChatFlow.Proofs.Catalog.Failures

/-!
# Workflows that are stored

A workflow is stored if the catalog holds it, or if it is read of the file when somebody opens it anew. Whatever has
happened to a catalog, the other entries that it keeps are documents that are no workflows, so a deed stores no
workflows but those that it writes.

* `Catalog.Reached`: catalogs that come about of a file.
* `Catalog.Reached.sound`: what such a catalog keeps.
* `Catalog.stored`, `Catalog.Deed.stored_perform`: what is stored after a deed.
-/

namespace ChatFlow

/-- The workflows are written as documents, and the other entries are documents that are no workflows. -/
structure Snapshot.Sound (s : Snapshot) : Prop where
  workflows : ∀ w ∈ s.workflows, w.Writable
  unread : ∀ e ∈ s.unread, e.2.IsDocument ∧ Workflow.isRefused e.2 = true

theorem Snapshot.sound_ofFile (f : File) : (ofFile f).Sound where
  workflows := by
    intro w hw
    rw [Catalog.workflows_ofFile, Catalog.mem_workflowsOf] at hw
    obtain ⟨v, hv, hcheck⟩ := hw
    exact Workflow.writable_of_check hcheck (Catalog.isDocument_of_entries hv)
  unread := by
    intro e he
    have hmem : e.2 ∈ Catalog.unreadOf f := Catalog.unread_ofFile f ▸ List.mem_map_of_mem he
    obtain ⟨hentry, hrefused⟩ := List.mem_filter.mp hmem
    exact ⟨Catalog.isDocument_of_entries hentry, hrefused⟩

/-- What is left of the other entries is so too. -/
theorem Snapshot.Sound.filter {s : Snapshot} (h : s.Sound) (p : Nat × Value → Bool) :
    Snapshot.Sound { s with unread := s.unread.filter p } where
  workflows := h.workflows
  unread := fun e he => h.unread e (List.mem_filter.mp he).1

namespace Catalog

variable {c : Catalog}

/-! ## What is kept -/

/-- A catalog holds what it keeps, or what it reads of the file. -/
theorem current_mk (f : File) (s : Snapshot) :
    (Catalog.mk f (some s)).current = s ∨ (Catalog.mk f (some s)).current = .ofFile f := by
  by_cases htag : s.tag = f.tag?
  · exact .inl (if_pos htag)
  · exact .inr (if_neg htag)

theorem current_cleared (c : Catalog) (deed : Deed) : (c.cleared deed).current =
    { c.current with unread := c.current.unread.filter fun e => !deed.deletes e.2 } := current_keep c.tag_current

/-- What is kept, if anything, is sound. -/
def Sound (c : Catalog) : Prop := ∀ s, c.snapshot = some s → s.Sound

theorem sound_ofFile (f : File) : Sound (ofFile f) := by
  rintro _ ⟨⟩

theorem Sound.current (h : Sound c) : c.current.Sound := by
  obtain ⟨f, _ | s⟩ := c
  · exact Snapshot.sound_ofFile f
  · rcases current_mk f s with hkept | hread
    · rw [hkept]
      exact h s rfl
    · rw [hread]
      exact Snapshot.sound_ofFile f

/-- A deed that reads at most leaves sound what is kept. -/
theorem Sound.of_unchanged {c' : Catalog} (h : Sound c) (hsame : Unchanged c c') : Sound c' := by
  rcases hsame with rfl | rfl
  · exact h
  · rintro s ⟨⟩
    exact h.current

/-- The entries that are left when a deed deletes an id are sound. -/
theorem Sound.cleared (h : Sound c) (deed : Deed) : Sound (c.cleared deed) := by
  rintro s ⟨⟩
  exact h.current.filter _

section Write

variable {deed : Deed} {s : Desk} {ws : List Workflow} {reply : Except Fault Bool → Answer}

/-- What comes of a writing: the file is locked and stays as it is, or it is written, or the text cannot be encoded
and the file is left empty. -/
theorem Deed.catalog_of_write (h : (deed.comesTo s).1 = .write ws reply) :
    (deed.perform s).2.catalog = s.catalog.cleared deed ∨
      (deed.perform s).2.catalog = s.catalog.written ws (s.catalog.rest deed ws) ∨
      (deed.perform s).2.catalog =
        ⟨⟨some [], s.catalog.file.version + 1, false⟩, some (s.catalog.cleared deed).current⟩ := by
  rw [perform_write h]
  by_cases hblocked : s.catalog.file.blocked = true
  · left
    rw [save_cleared_blocked hblocked]
  · right
    have hfree : s.catalog.file.blocked = false := Bool.eq_false_of_not_eq_true hblocked
    rw [save_cleared hfree]
    split
    · exact .inl rfl
    · right
      rw [File.put, hfree]
      rfl

/-- Every deed leaves sound what is kept. -/
theorem Sound.perform (h : Sound s.catalog) (hsent : deed.Sent Value.IsDocument) :
    Sound (deed.perform s).2.catalog := by
  cases hcomes : (deed.comesTo s).1 with
  | answer a =>
      obtain ⟨c, hperform, hsame⟩ := Deed.perform_of_answer hcomes
      rw [hperform]
      exact h.of_unchanged hsame
  | write ws reply =>
      rcases Deed.catalog_of_write hcomes with hlocked | hwritten | hempty
      · rw [hlocked]
        exact h.cleared deed
      · rw [hwritten]
        rintro _ ⟨⟩
        constructor
        · exact Deed.write_lasts lasts_writable hsent h.current.workflows hcomes
        · intro e he
          exact h.current.unread e (List.mem_filter.mp he).1
      · rw [hempty]
        rintro _ ⟨⟩
        exact (h.cleared deed).current

end Write

/-! ## Catalogs that come about -/

/-- What an editor sends, if something is sent, is of a kind. -/
def Happening.Sent (Q : Value → Prop) : Happening → Prop
  | turn (.deed deed) => deed.Sent Q
  | _ => True

/-- A catalog that comes about of some file, whatever happens to it. -/
def Reached (c : Catalog) : Prop :=
  ∃ f d before, (∀ h ∈ before, Happening.Sent Value.IsDocument h) ∧ c = (past before ⟨ofFile f, d⟩).catalog

theorem Sound.happens {s : Desk} (h : Sound s.catalog) {happening : Happening}
    (hsent : happening.Sent Value.IsDocument) : Sound (happening.perform s).2.catalog := by
  cases happening with
  | turn t =>
      cases t with
      | deed deed => exact h.perform hsent
      | edit content => exact h
  | forget => rintro _ ⟨⟩
  | lock locked => exact h

theorem Sound.past {s : Desk} (h : Sound s.catalog) {before : List Happening}
    (hsent : ∀ h ∈ before, Happening.Sent Value.IsDocument h) : Sound (past before s).catalog := by
  induction before generalizing s with
  | nil => exact h
  | cons happening before ih =>
      obtain ⟨hfirst, hrest⟩ := List.forall_mem_cons.mp hsent
      exact ih (h.happens hfirst) hrest

theorem Reached.sound (h : Reached c) : Sound c := by
  obtain ⟨f, d, before, hsent, rfl⟩ := h
  exact Sound.past (sound_ofFile f) hsent

/-! ## What is stored -/

/-- The workflows that a catalog holds, and those that are read of its file when it is opened anew. -/
def stored (c : Catalog) : List Workflow := c.current.workflows ++ workflowsOf c.file

theorem Unchanged.stored_eq {c' : Catalog} (h : Unchanged c c') : stored c' = stored c := by
  rw [stored, stored, h.current_eq, h.file_eq]

/-- What a deed leaves stored is of a kind if what was stored before is, and what the deed writes; the kind has to stay
when a workflow is written and read again. -/
theorem Deed.stored_perform {P : Workflow → Prop} {deed : Deed} {s : Desk} (hsound : Sound s.catalog)
    (hsent : deed.Sent Value.IsDocument) (hback : ∀ {w u}, P w → Workflow.check w.toValue = .accepted u → P u)
    (hwrite : ∀ {ws reply}, (deed.comesTo s).1 = .write ws reply → ∀ w ∈ ws, P w)
    (hstored : ∀ w ∈ stored s.catalog, P w) : ∀ w ∈ stored (deed.perform s).2.catalog, P w := by
  have hcurrent : ∀ w ∈ s.catalog.current.workflows, P w := fun w hw => hstored w (List.mem_append_left _ hw)
  have hcleared : (s.catalog.cleared deed).current.workflows = s.catalog.current.workflows := by
    rw [current_cleared]
  cases hcomes : (deed.comesTo s).1 with
  | answer a =>
      obtain ⟨c, hperform, hsame⟩ := perform_of_answer hcomes
      rw [hperform, hsame.stored_eq]
      exact hstored
  | write ws reply =>
      rcases catalog_of_write hcomes with hlocked | hwritten | hempty
      · rw [hlocked, stored, hcleared]
        exact hstored
      · rw [hwritten, stored, current_written]
        intro w hw
        rcases List.mem_append.mp hw with hkept | hread
        · exact hwrite hcomes w hkept
        · -- the file holds what was written: workflows of the kind, and entries that are none
          have hwritable := write_lasts lasts_writable hsent hsound.current.workflows hcomes
          have hothers : ∀ e ∈ s.catalog.rest deed ws, e.2.IsDocument ∧ Workflow.isRefused e.2 = true :=
            fun e he => hsound.current.unread e (List.mem_filter.mp he).1
          obtain ⟨v, hv, hcheck⟩ := mem_workflowsOf.mp hread
          rw [entries_written s.catalog hwritable fun e he => (hothers e he).1] at hv
          rcases List.mem_append.mp ((place_perm _ _).mem_iff.mp hv) with hworkflow | hother
          · obtain ⟨u, hu, rfl⟩ := List.mem_map.mp hworkflow
            exact hback (hwrite hcomes u hu) hcheck
          · obtain ⟨e, he, rfl⟩ := List.mem_map.mp hother
            have hrefused := (hothers e he).2
            rw [Workflow.isRefused_of_accepted hcheck] at hrefused
            cases hrefused
      · rw [hempty, stored]
        have hnone : workflowsOf ⟨some [], s.catalog.file.version + 1, false⟩ = [] := rfl
        rw [hnone, List.append_nil]
        rcases current_mk ⟨some [], s.catalog.file.version + 1, false⟩ (s.catalog.cleared deed).current with hkept | hread
        · rw [hkept, hcleared]
          exact hcurrent
        · rw [hread, workflows_ofFile, hnone]
          intro w hw
          cases hw

end Catalog

end ChatFlow
