import ChatFlow.Proofs.Catalog.Deeds
import ChatFlow.Proofs.Catalog.Places
import ChatFlow.Proofs.Json.RoundTrip

/-!
# What the file holds

The entries of the file are told apart into workflows and unread entries whenever it is read. What is kept of
the file without reading it again are the same unread entries in the same order, and every deed that writes
the file leaves those that stay, in their order.

* `Catalog.unreadOf`: the unread entries that a file holds.
* `Catalog.entries_written`: a file that was written holds what was written.
* `Catalog.Faithful`: what is kept has the unread entries of the file.
* `Catalog.Faithful.perform`: every deed leaves it so.
-/

namespace ChatFlow

namespace Catalog

/-! ## Reading a file -/

/-- The workflows that a file holds. -/
def workflowsOf (f : File) : List Workflow :=
  (Snapshot.entries f).filterMap fun v => (Workflow.check v).toOption

/-- The entries of a file that are no workflows. -/
def unreadOf (f : File) : List Value := (Snapshot.entries f).filter Workflow.isRefused

theorem workflows_ofFile (f : File) : (Snapshot.ofFile f).workflows = workflowsOf f :=
  (Snapshot.sort_eq 0 (Snapshot.entries f)).1

theorem unread_ofFile (f : File) : (Snapshot.ofFile f).unread.map Prod.snd = unreadOf f :=
  (Snapshot.sort_eq 0 (Snapshot.entries f)).2

theorem ascending_ofFile (f : File) : Ascending (Snapshot.ofFile f).unread :=
  (ascending_sort 0 (Snapshot.entries f)).1

theorem mem_workflowsOf {f : File} {w : Workflow} :
    w ∈ workflowsOf f ↔ ∃ v ∈ Snapshot.entries f, Workflow.check v = .accepted w := by
  rw [workflowsOf, List.mem_filterMap]
  constructor
  · rintro ⟨v, hv, hw⟩
    cases hcheck : Workflow.check v with
    | accepted u =>
        rw [hcheck] at hw
        cases hw
        exact ⟨v, hv, hcheck⟩
    | refused n =>
        rw [hcheck] at hw
        cases hw
  · rintro ⟨v, hv, hw⟩
    refine ⟨v, hv, ?_⟩
    rw [hw]
    rfl

/-- The entries of a file are documents. -/
theorem isDocument_of_entries {f : File} {v : Value} (h : v ∈ Snapshot.entries f) : v.IsDocument := by
  rw [Snapshot.entries] at h
  split at h
  · next items hitems =>
      obtain ⟨t, -, hread⟩ := Option.bind_eq_some_iff.mp hitems
      exact (Json.isDocument_of_read? hread).item v h
  · cases h

theorem entries_congr {f g : File} (h : f.content = g.content) : Snapshot.entries f = Snapshot.entries g := by
  rw [Snapshot.entries, Snapshot.entries, File.document?, File.document?, h]

/-! ## Reading what was written -/

section Written

variable {ws : List Workflow} {others : List (Nat × Value)}

/-- A file that was written holds a list of what was written. -/
theorem document?_written (c : Catalog) (hws : ∀ w ∈ ws, w.Writable)
    (hothers : ∀ e ∈ others, e.2.IsDocument) :
    (c.written ws others).file.document? = some (.list (entriesOf ws others)) := by
  refine Json.read?_text rfl (.list ?_)
  intro v hv
  rcases List.mem_append.mp ((place_perm _ others).mem_iff.mp hv) with hworkflow | hother
  · obtain ⟨w, hw, rfl⟩ := List.mem_map.mp hworkflow
    exact (hws w hw).isDocument
  · obtain ⟨e, he, rfl⟩ := List.mem_map.mp hother
    exact hothers e he

theorem entries_written (c : Catalog) (hws : ∀ w ∈ ws, w.Writable)
    (hothers : ∀ e ∈ others, e.2.IsDocument) :
    Snapshot.entries (c.written ws others).file = entriesOf ws others := by
  rw [Snapshot.entries, document?_written c hws hothers]

/-- What was written is told apart again into the workflows and the entries that were put between them. -/
theorem sort_entriesOf (hws : ∀ w ∈ ws, w.Writable)
    (hothers : ∀ e ∈ others, Workflow.isRefused e.2 = true) (hascending : Ascending others) :
    Snapshot.sort 0 (entriesOf ws others) =
      (ws.filterMap (fun w => (Workflow.check w.toValue).toOption), landed ws.length others) := by
  have hdocuments : ∀ d ∈ ws.map Workflow.toValue, Workflow.isRefused d = false := by
    intro d hd
    obtain ⟨w, hw, rfl⟩ := List.mem_map.mp hd
    obtain ⟨u, hu, -⟩ := Workflow.exists_check_toValue (hws w hw).differ
    exact Workflow.isRefused_of_accepted hu
  rw [entriesOf, sort_place hdocuments hothers hascending, List.filterMap_map, List.length_map]
  rfl

end Written

/-! ## What is kept of a file -/

/-- The place of the file is free, all workflows that are kept are of a kind, and the unread entries that are
kept are those of the file, in order. -/
structure Faithful (P : Workflow → Prop) (c : Catalog) : Prop where
  free : c.file.blocked = false
  workflows : ∀ w ∈ c.current.workflows, P w
  unread : c.current.unread.map Prod.snd = unreadOf c.file
  ascending : Ascending c.current.unread

/-- What is read of a file is faithful to it. -/
theorem faithful_of_current {P : Workflow → Prop} {c : Catalog} (hfree : c.file.blocked = false)
    (hcurrent : c.current = .ofFile c.file)
    (hread : ∀ v ∈ Snapshot.entries c.file, ∀ w, Workflow.check v = .accepted w → P w) : Faithful P c where
  free := hfree
  workflows := by
    intro w hw
    rw [hcurrent, workflows_ofFile, mem_workflowsOf] at hw
    obtain ⟨v, hv, hcheck⟩ := hw
    exact hread v hv w hcheck
  unread := hcurrent ▸ unread_ofFile c.file
  ascending := hcurrent ▸ ascending_ofFile c.file

/-- The workflows that are read of a file are written as documents. -/
theorem faithful_writable {c : Catalog} (hfree : c.file.blocked = false) (hcurrent : c.current = .ofFile c.file) :
    Faithful Workflow.Writable c :=
  faithful_of_current hfree hcurrent fun _ hv _ hw => Workflow.writable_of_check hw (isDocument_of_entries hv)

section Faithful

variable {P : Workflow → Prop} {c : Catalog} (h : Faithful P c)

include h

theorem Faithful.of_unchanged {c' : Catalog} (hsame : Unchanged c c') : Faithful P c' where
  free := hsame.file_eq ▸ h.free
  workflows := hsame.current_eq ▸ h.workflows
  unread := by
    rw [hsame.current_eq, hsame.file_eq]
    exact h.unread
  ascending := hsame.current_eq ▸ h.ascending

theorem Faithful.isRefused {e : Nat × Value} (he : e ∈ c.current.unread) :
    Workflow.isRefused e.2 = true ∧ e.2.IsDocument := by
  have hmem : e.2 ∈ unreadOf c.file := h.unread ▸ List.mem_map_of_mem he
  obtain ⟨hentry, hrefused⟩ := List.mem_filter.mp hmem
  exact ⟨hrefused, isDocument_of_entries hentry⟩

variable (deed : Deed) {ws : List Workflow}

/-- The unread entries that a deed leaves. -/
theorem Faithful.map_rest (ws : List Workflow) :
    (c.rest deed ws).map Prod.snd = (unreadOf c.file).filter (stays deed ws) := by
  rw [Catalog.map_rest, h.unread]

theorem Faithful.entries_written (hws : ∀ w ∈ ws, w.Writable) :
    Snapshot.entries (c.written ws (c.rest deed ws)).file = entriesOf ws (c.rest deed ws) :=
  Catalog.entries_written c hws fun _ he => (h.isRefused (List.mem_filter.mp he).1).2

theorem Faithful.ofFile_written (hws : ∀ w ∈ ws, w.Writable) :
    Snapshot.ofFile (c.written ws (c.rest deed ws)).file =
      ⟨ws.filterMap fun w => (Workflow.check w.toValue).toOption, landed ws.length (c.rest deed ws),
        some (c.file.version + 1)⟩ := by
  have hsort := sort_entriesOf hws (fun e he => (h.isRefused (List.mem_filter.mp he).1).1)
    (h.ascending.filter fun e => stays deed ws e.2)
  rw [Snapshot.ofFile, h.entries_written deed hws, rest, hsort]
  rfl

/-- After a deed that writes the file, it holds the unread entries that stay. -/
theorem Faithful.unreadOf_written (hws : ∀ w ∈ ws, w.Writable) :
    unreadOf (c.written ws (c.rest deed ws)).file = (unreadOf c.file).filter (stays deed ws) := by
  rw [← unread_ofFile, h.ofFile_written deed hws, map_snd_landed, h.map_rest]

theorem Faithful.written (hwritable : ∀ w, P w → w.Writable) (hws : ∀ w ∈ ws, P w) :
    Faithful P (c.written ws (c.rest deed ws)) where
  free := rfl
  workflows := by
    rw [current_written]
    exact hws
  unread := by
    rw [current_written, h.unreadOf_written deed fun w hw => hwritable w (hws w hw), h.map_rest]
  ascending := by
    rw [current_written]
    exact h.ascending.filter fun e => stays deed ws e.2

end Faithful

/-- A deed leaves what is kept faithful to the file. -/
theorem Faithful.perform {Q : Value → Prop} {P : Workflow → Prop} (hlasts : Lasts Q P)
    (hwritable : ∀ w, P w → w.Writable) {s : Desk} (h : Faithful P s.catalog) {deed : Deed}
    (hsent : deed.Sent Q) (hanswer : (deed.perform s).1.isUnencodable = false) :
    Faithful P (deed.perform s).2.catalog := by
  obtain ⟨a, c, -, hperform, hsame⟩ | ⟨ws, reply, hwrite, -, hperform⟩ := deed.perform_cases h.free hanswer
  · rw [hperform]
    exact h.of_unchanged hsame
  · rw [hperform]
    exact h.written deed hwritable (Deed.write_lasts hlasts hsent h.workflows hwrite)

/-! ## Files for examples -/

/-- A file that holds a list of entries. -/
def fileOf (entries : List Value) : File := ⟨some (Json.text .line (.list entries)), 0, false⟩

/-- A workflow without nodes. -/
def plain (id : Text) : Value := .object [("id", .text id)]

/-- An entry that is no workflow, as a number stands for its nodes. -/
def broken (id : Text) : Value := .object [("id", .text id), ("nodes", .int 3)]

/-- What an editor sends for a new workflow. -/
def newWorkflow : Value :=
  .object [("id", .text "d"), ("nodes", .list [.object [("id", .text "t"), ("type", .text "trigger")]])]

theorem isDocument_newWorkflow : newWorkflow.IsDocument :=
  Json.isDocument_of_read? (t := Json.text .line newWorkflow) (by decide +kernel)

end Catalog

end ChatFlow
