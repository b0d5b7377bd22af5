import ChatFlow.Proofs.Catalog.Failures
import ChatFlow.Proofs.Catalog.Unread

/-!
# Unread entries keep their places

When a list of workflows is saved that is as long as the one that was read, each unread entry is written at the
index where it was found, and the workflows are written in the other places. Whatever lists are saved one after
the other, the unread entries that are left keep their order, and the workflows stand in the order of the last
list.

A list that cannot be encoded is not saved, and neither is one beside an unread entry that cannot be: then the
file is left empty.

* `Catalog.save_answer`: when a list of workflows is saved.
* `Catalog.InPlace`: entries that were replaced in their places.
* `Catalog.Faithful.saves`: what is left after lists were saved one after the other.
* `Catalog.saves_inPlace`: where everything stands.
* `Catalog.unread_lost_unencodable`: an unread entry that cannot be written.
-/

namespace ChatFlow

namespace Catalog

variable {c : Catalog} {ws : List Workflow}

/-! ## Saving a list of workflows -/

/-- To save is to write what is kept, as a deed does that deletes nothing. -/
theorem save_eq (c : Catalog) (ws : List Workflow) : c.save ws = (c.cleared .load).save ws := by
  rw [cleared_of_deletes_none (fun _ => rfl), save, save, current_keep_current]
  rfl

theorem save_of_free (hfree : c.file.blocked = false) (ws : List Workflow) :
    c.save ws = if (textOf ws (c.rest .load ws)).isWellFormed then (.ok true, c.written ws (c.rest .load ws))
      else (.error .unencodable, ⟨c.file.put (some []), some (c.cleared .load).current⟩) := by
  rw [save_eq, save_cleared hfree]

/-- The text can be encoded if the workflows and the entries can. -/
theorem isWellFormed_textOf_iff {others : List (Nat × Value)} : (textOf ws others).isWellFormed = true ↔
    (∀ w ∈ ws, w.toValue.isEncodable = true) ∧ ∀ e ∈ others, e.2.isEncodable = true := by
  rw [textOf, Json.text, Json.isWellFormed_textAt rfl, Value.isEncodable_list]
  constructor
  · intro h
    constructor
    · intro w hw
      refine h _ ((place_perm _ others).mem_iff.mpr (List.mem_append_left _ ?_))
      exact List.mem_map_of_mem hw
    · intro e he
      refine h _ ((place_perm _ others).mem_iff.mpr (List.mem_append_right _ ?_))
      exact List.mem_map_of_mem he
  · rintro ⟨hworkflows, hothers⟩ v hv
    rcases List.mem_append.mp ((place_perm _ others).mem_iff.mp hv) with hworkflow | hother
    · obtain ⟨w, hw, rfl⟩ := List.mem_map.mp hworkflow
      exact hworkflows w hw
    · obtain ⟨e, he, rfl⟩ := List.mem_map.mp hother
      exact hothers e he

/-- A list is saved if the file can be written, and everything that is to be written can be encoded. -/
theorem save_answer : (c.save ws).1 = .ok true ↔ c.file.blocked = false ∧
    (∀ w ∈ ws, w.toValue.isEncodable = true) ∧ ∀ e ∈ c.rest .load ws, e.2.isEncodable = true := by
  rw [← isWellFormed_textOf_iff]
  cases hblocked : c.file.blocked with
  | true =>
      rw [save_eq, save_cleared_blocked hblocked]
      simp
  | false =>
      rw [save_of_free hblocked]
      by_cases hwf : (textOf ws (c.rest .load ws)).isWellFormed = true
      · simp [hwf]
      · simp [hwf]

/-- What was saved is written. -/
theorem save_done (h : (c.save ws).1 = .ok true) :
    c.file.blocked = false ∧ (c.save ws).2 = c.written ws (c.rest .load ws) := by
  obtain ⟨hfree, hencodable⟩ := save_answer.mp h
  rw [save_of_free hfree, if_pos (isWellFormed_textOf_iff.mpr hencodable)]
  exact ⟨hfree, rfl⟩

/-! ## Lists that are saved one after the other -/

/-- The catalog after lists of workflows were saved. -/
def saves : List (List Workflow) → Catalog → Catalog
  | [], c => c
  | ws :: later, c => saves later (c.save ws).2

/-- Was each of the lists saved? -/
def allSaved : List (List Workflow) → Catalog → Prop
  | [], _ => True
  | ws :: later, c => (c.save ws).1 = .ok true ∧ allSaved later (c.save ws).2

/-- Has none of the workflows the id of an entry? -/
def unshared (ws : List Workflow) (v : Value) : Bool := !ws.any fun w => idOf? v = some w.id

theorem unshared_iff {v : Value} : unshared ws v = true ↔ ∀ w ∈ ws, idOf? v ≠ some w.id := by
  simp [unshared]

theorem filter_unshared_append (ws us : List Workflow) (vs : List Value) :
    (vs.filter (unshared ws)).filter (unshared us) = vs.filter (unshared (ws ++ us)) := by
  rw [List.filter_filter]
  refine List.filter_congr ?_
  intro v _
  rw [unshared, unshared, unshared, List.any_append, Bool.not_or, Bool.and_comm]

/-- A list that is saved leaves the unread entries of which none of its workflows has the id. -/
theorem stays_load (ws : List Workflow) : stays .load ws = unshared ws := by
  funext v
  rw [stays_eq]
  rfl

/-- When a list is saved, the file holds its workflows in order, and the unread entries that are left. -/
theorem Faithful.save (h : Faithful Workflow.Writable c) (hws : ∀ w ∈ ws, w.Writable)
    (hsaved : (c.save ws).1 = .ok true) : Faithful Workflow.Writable (c.save ws).2 ∧
      (c.save ws).2.file.document? = some (.list (entriesOf ws (c.rest .load ws))) ∧
      unreadOf (c.save ws).2.file = (unreadOf c.file).filter (unshared ws) := by
  rw [(save_done hsaved).2, ← stays_load]
  refine ⟨h.written .load (fun _ hw => hw) hws, ?_, h.unreadOf_written .load hws⟩
  exact document?_written c hws fun e he => (h.isRefused (List.mem_filter.mp he).1).2

/-- Lists that are saved one after the other leave the unread entries of which none of the workflows has the
id. -/
theorem Faithful.saves {lists : List (List Workflow)} (h : Faithful Workflow.Writable c)
    (hlists : ∀ ws ∈ lists, ∀ w ∈ ws, w.Writable) (hsaved : allSaved lists c) :
    Faithful Workflow.Writable (saves lists c) ∧
      unreadOf (saves lists c).file = (unreadOf c.file).filter (unshared lists.flatten) := by
  induction lists generalizing c with
  | nil => exact ⟨h, (List.filter_eq_self.mpr fun v _ => rfl).symm⟩
  | cons ws lists ih =>
      obtain ⟨hfirst, hrest⟩ := List.forall_mem_cons.mp hlists
      obtain ⟨hnow, hlater⟩ := hsaved
      obtain ⟨hfaithful, -, hunread⟩ := h.save hfirst hnow
      obtain ⟨hend, hleft⟩ := ih hfaithful hrest hlater
      refine ⟨hend, ?_⟩
      show unreadOf (Catalog.saves lists (c.save ws).2).file = _
      rw [hleft, hunread, filter_unshared_append, List.flatten_cons]

/-- The documents stand in their order in the entries that are written. -/
theorem Faithful.filter_entriesOf (h : Faithful Workflow.Writable c) (hws : ∀ w ∈ ws, w.Writable) :
    (entriesOf ws (c.rest .load ws)).filter (fun v => !Workflow.isRefused v) = ws.map Workflow.toValue := by
  have hothers : ∀ e ∈ c.rest .load ws, (!Workflow.isRefused e.2) = false := by
    intro e he
    rw [(h.isRefused (List.mem_filter.mp he).1).1]
    rfl
  rw [entriesOf, filter_place hothers, List.filter_eq_self]
  intro v hv
  obtain ⟨w, hw, rfl⟩ := List.mem_map.mp hv
  obtain ⟨u, hu, -⟩ := Workflow.exists_check_toValue (hws w hw).differ
  rw [Workflow.isRefused_of_accepted hu]
  rfl

/-! ## A list as long as the one that was read -/

/-- Of a list, the entries that are no workflows are where they were, and documents stand in the other places,
in order. -/
structure InPlace (es documents es' : List Value) : Prop where
  length : es'.length = es.length
  unread : ∀ (j : Nat) v, es[j]? = some v → Workflow.isRefused v = true → es'[j]? = some v
  replaced : ∀ (j : Nat) v, es[j]? = some v → Workflow.isRefused v = false → es'[j]? = documents[slot es j]?

theorem inPlace_place_sort {es documents : List Value}
    (hlength : documents.length = (Snapshot.sort 0 es).1.length) :
    InPlace es documents (place documents (Snapshot.sort 0 es).2) where
  length := length_place_sort hlength
  unread := by
    intro j v hv hrefused
    rw [getElem?_place_sort hlength hv, if_pos hrefused]
  replaced := by
    intro j v hv haccepted
    rw [getElem?_place_sort hlength hv, haccepted]
    rfl

/-- If a file holds a list, in which no unread entry has the id of a workflow, and a list of workflows of the same
ids and the same length is saved, it is written with every unread entry at its index and the workflows in the
other places, in order; it is saved exactly if the file can be written and everything can be encoded. After any
lists were saved one after the other, the file holds a list with the unread entries that are left in their
order, and the workflows of the last one in theirs. -/
theorem saves_inPlace {es : List Value} (hlist : c.file.document? = some (.list es))
    (hfresh : c.current = .ofFile c.file) :
    ((∀ v ∈ unreadOf c.file, ∀ w ∈ c.load.1, idOf? v ≠ some w.id) →
      ∀ ws, (∀ w ∈ ws, w.Writable) → ws.length = c.load.1.length → (∀ w ∈ ws, ∃ u ∈ c.load.1, u.id = w.id) →
        ((c.save ws).1 = .ok true ↔ c.file.blocked = false ∧ (∀ w ∈ ws, w.toValue.isEncodable = true) ∧
          ∀ v ∈ unreadOf c.file, v.isEncodable = true) ∧
        ((c.save ws).1 = .ok true → ∃ es', (c.save ws).2.file.document? = some (.list es') ∧
          InPlace es (ws.map Workflow.toValue) es')) ∧
      ∀ lists ws, (∀ us ∈ lists, ∀ w ∈ us, w.Writable) → (∀ w ∈ ws, w.Writable) → allSaved lists c →
        ((saves lists c).save ws).1 = .ok true →
        ∃ es', ((saves lists c).save ws).2.file.document? = some (.list es') ∧
          es'.filter Workflow.isRefused = (unreadOf c.file).filter (unshared (lists.flatten ++ ws)) ∧
          es'.filter (fun v => !Workflow.isRefused v) = ws.map Workflow.toValue := by
  have hentries : Snapshot.entries c.file = es := by
    rw [Snapshot.entries, hlist]
  have hunread : c.current.unread = (Snapshot.sort 0 es).2 := by
    rw [hfresh, Snapshot.ofFile, hentries]
  have hworkflows : c.load.1 = (Snapshot.sort 0 es).1 := by
    rw [load, hfresh, Snapshot.ofFile, hentries]
  have hvalues : c.current.unread.map Prod.snd = unreadOf c.file := hfresh ▸ unread_ofFile c.file
  have hfaithful : c.file.blocked = false → Faithful Workflow.Writable c :=
    fun hfree => faithful_writable hfree hfresh
  constructor
  · intro hother ws hws hlength hids
    have hall : c.rest .load ws = c.current.unread := by
      rw [rest, List.filter_eq_self]
      intro e he
      have hmem : e.2 ∈ unreadOf c.file := hvalues ▸ List.mem_map_of_mem he
      rw [stays_load, unshared_iff]
      intro w hw
      obtain ⟨u, hu, hid⟩ := hids w hw
      exact hid ▸ hother e.2 hmem u hu
    constructor
    · rw [save_answer, hall, ← hvalues, List.forall_mem_map]
    · intro hsaved
      have hdocument := ((hfaithful (save_done hsaved).1).save hws hsaved).2.1
      refine ⟨_, hdocument, ?_⟩
      rw [entriesOf, hall, hunread]
      refine inPlace_place_sort ?_
      rw [List.length_map, hlength, hworkflows]
  · intro lists ws hlists hws hsaved hlast
    have hfree : c.file.blocked = false := by
      cases lists with
      | nil => exact (save_done hlast).1
      | cons us lists => exact (save_done hsaved.1).1
    obtain ⟨hend, hleft⟩ := (hfaithful hfree).saves hlists hsaved
    obtain ⟨-, hdocument, hrest⟩ := hend.save hws hlast
    refine ⟨_, hdocument, ?_, hend.filter_entriesOf hws⟩
    have hread : unreadOf ((saves lists c).save ws).2.file =
        (entriesOf ws ((saves lists c).rest .load ws)).filter Workflow.isRefused := by
      rw [unreadOf, Snapshot.entries, hdocument]
    rw [← hread, hrest, hleft, filter_unshared_append]

/-- The workflows of a file are saved in the opposite order; and all are deleted, one after the other. -/
theorem saves_inPlace_of_sample :
    let c := (ofFile (fileAround "c")).load.2
    let es := [plain "a", broken "c", plain "b"]
    (c.file.document? = some (.list es) ∧ c.current = .ofFile c.file ∧
        (∀ v ∈ unreadOf c.file, ∀ w ∈ c.load.1, idOf? v ≠ some w.id) ∧
        (c.save c.load.1.reverse).1 = .ok true ∧ allSaved [c.load.1.tail] c ∧
        ((saves [c.load.1.tail] c).save []).1 = .ok true) ∧
      (∃ es', (c.save c.load.1.reverse).2.file.document? = some (.list es') ∧
        InPlace es (c.load.1.reverse.map Workflow.toValue) es') ∧
      ∃ es', ((saves [c.load.1.tail] c).save []).2.file.document? = some (.list es') ∧
        es'.filter Workflow.isRefused = (unreadOf c.file).filter (unshared c.load.1.tail) ∧
        es'.filter (fun v => !Workflow.isRefused v) = [] := by
  intro c es
  have hlist : c.file.document? = some (.list es) := by decide +kernel
  have hfresh : c.current = .ofFile c.file := current_keep_current (ofFile (fileAround "c"))
  have hother : ∀ v ∈ unreadOf c.file, ∀ w ∈ c.load.1, idOf? v ≠ some w.id := by decide +kernel
  have hreversed : (c.save c.load.1.reverse).1 = .ok true := by decide +kernel
  have hfirst : (c.save c.load.1.tail).1 = .ok true := by decide +kernel
  have hlast : ((saves [c.load.1.tail] c).save []).1 = .ok true := by decide +kernel
  have hread : ∀ w ∈ c.load.1, w.Writable := (faithful_writable rfl hfresh).workflows
  obtain ⟨hplaces, horder⟩ := saves_inPlace hlist hfresh
  refine ⟨⟨hlist, hfresh, hother, hreversed, ⟨hfirst, trivial⟩, hlast⟩, ?_, ?_⟩
  · refine (hplaces hother c.load.1.reverse ?_ List.length_reverse ?_).2 hreversed
    · intro w hw
      exact hread w (List.mem_reverse.mp hw)
    · intro w hw
      exact ⟨w, List.mem_reverse.mp hw, rfl⟩
  · refine horder [c.load.1.tail] [] ?_ (by simp) ⟨hfirst, trivial⟩ hlast
    intro us hus w hw
    rw [List.mem_singleton.mp hus] at hw
    exact hread w (List.mem_of_mem_tail hw)

/-- A file with an entry that is a lone surrogate, written in ASCII. -/
def fileUnencodable : File :=
  ⟨some (Json.text .wire (.list [.text [.ofNat 0xD800], plain "a"])), 0, false⟩

/-- An entry that cannot be encoded is read, but the workflows cannot be saved beside it, and all is lost. -/
theorem unread_lost_unencodable :
    let c := (ofFile fileUnencodable).load.2
    (c.file.document? = some (.list [.text [.ofNat 0xD800], plain "a"]) ∧
        c.current = .ofFile c.file ∧ c.file.blocked = false ∧
        (∀ v ∈ unreadOf c.file, ∀ w ∈ c.load.1, idOf? v ≠ some w.id)) ∧
      (c.save c.load.1).1 = .error .unencodable ∧ (c.save c.load.1).2.file.document? = none := by
  intro c
  refine ⟨⟨?_, current_keep_current (ofFile fileUnencodable), rfl, ?_⟩, ?_, ?_⟩
  · decide +kernel
  · decide +kernel
  · decide +kernel
  · decide +kernel

end Catalog

end ChatFlow
