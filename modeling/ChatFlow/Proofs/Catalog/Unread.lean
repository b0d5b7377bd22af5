import ChatFlow.Proofs.Catalog.Entries

/-!
# Unread entries stay in the file

An entry of the file that is no workflow is written back with each writing of the file, unless its id is
deleted or a workflow that is written has it. It is not enough that the workflow that is changed has another
id: when a workflow with the id of the entry stands in the file too, the entry is lost as soon as anything is
written.

* `Catalog.Deed.drops`: does a deed take an entry out of the file?
* `Catalog.unreadOf_perform`: a deed leaves the other unread entries, in their order.
* `Catalog.unreadOf_after`: what a run of deeds leaves of them.
* `Catalog.unread_lost_beside_workflow`: an entry that is lost when another workflow is disabled.
-/

namespace ChatFlow

namespace Catalog

namespace Deed

/-- Does a deed take an entry out of the file? It deletes its id, or it writes the file where a workflow has
its id. -/
def drops (deed : Deed) (s : Desk) (v : Value) : Bool :=
  let c := (deed.perform s).2.catalog
  deed.deletes v || (c.file ≠ s.catalog.file && c.current.workflows.any fun w => idOf? v = some w.id)

end Deed

/-- The id of the workflow that was taken in, if the answer tells of one. -/
def Answer.savedId? : Answer → Option Text
  | .report (.ok ⟨true, _, _, [(_, .text id)]⟩) => some id
  | _ => none

/-- Does a deed delete the id of an entry, or take in a workflow of its id? -/
def Deed.concerns (deed : Deed) (s : Desk) (v : Value) : Bool :=
  deed.deletes v || (match idOf? v with
    | some id => (deed.perform s).1.savedId? = some id
    | none => false)

/-- Does something hold of some deed of a run? -/
def along (p : Deed → Desk → Bool) : List Deed → Desk → Bool
  | [], _ => false
  | deed :: deeds, s => p deed s || along p deeds (deed.perform s).2

/-! ## One deed -/

theorem savedId?_reportOf (id : Text) : (reportOf id (.ok true)).savedId? = some id := rfl

/-- A deed that comes to an answer deletes no unread entry. -/
theorem deletes_of_answer {deed : Deed} {ws : List Workflow} {unread : List Value} {d : Dice} {a : Answer}
    (h : (deed.outcome ws unread d).1 = .answer a) : ∀ v ∈ unread, deed.deletes v = false := by
  intro v hv
  cases deed with
  | delete id =>
      simp only [Deed.outcome] at h
      split at h
      · next hcount =>
          have hlength : (unread.filter fun v => idOf? v ≠ some id).length = unread.length :=
            of_decide_eq_true (Bool.and_eq_true_iff.mp hcount).2
          have hall := List.length_filter_eq_length_iff.mp hlength v hv
          simpa [Deed.deletes] using hall
      · cases h
  | _ => rfl

/-- A workflow that is written has the id of one that was there, or was taken in. -/
theorem Deed.exists_id_of_write {deed : Deed} {s : Desk} {ws : List Workflow}
    {reply : Except Fault Bool → Answer} (h : (deed.comesTo s).1 = .write ws reply) {w : Workflow}
    (hw : w ∈ ws) :
    (∃ u ∈ s.catalog.current.workflows, u.id = w.id) ∨ (reply (.ok true)).savedId? = some w.id := by
  obtain ⟨id, -, rfl, -⟩ | ⟨id, -, htoggled, -⟩ | ⟨_, _, _, _, new, _, _, _, rfl, hput⟩ := outcome_write h
  · exact .inl ⟨w, (List.mem_filter.mp hw).1, rfl⟩
  · obtain ⟨u, hu, b, rfl⟩ := exists_of_toggled? htoggled hw
    exact .inl ⟨u, hu, rfl⟩
  · obtain ⟨known, -, -, rfl⟩ | ⟨id, -, rfl⟩ := hput
    · rcases mem_replaced hw with rfl | hold
      · exact .inr (savedId?_reportOf w.id)
      · exact .inl ⟨w, hold, rfl⟩
    · rcases List.mem_append.mp hw with hold | hnew
      · exact .inl ⟨w, hold, rfl⟩
      · rw [List.mem_singleton.mp hnew]
        exact .inr (savedId?_reportOf new.id)

theorem stays_eq (deed : Deed) (ws : List Workflow) (v : Value) :
    stays deed ws v = !(deed.deletes v || ws.any fun w => idOf? v = some w.id) := by
  have hids : ((idOf? v).all fun id => !(ws.map (·.id)).contains id) =
      !ws.any fun w => idOf? v = some w.id := by
    cases h : idOf? v with
    | none => simp
    | some id =>
        refine congrArg not (Bool.eq_iff_iff.mpr ?_)
        rw [List.contains_iff_mem, List.mem_map, List.any_eq_true]
        constructor
        · rintro ⟨w, hw, hid⟩
          exact ⟨w, hw, decide_eq_true (congrArg some hid.symm)⟩
        · rintro ⟨w, hw, hid⟩
          exact ⟨w, hw, (Option.some.inj (of_decide_eq_true hid)).symm⟩
  rw [stays, hids, Bool.not_or]

/-- A deed leaves the unread entries that it does not take out, in their order. -/
theorem unreadOf_perform {deed : Deed} {s : Desk} (h : Faithful Workflow.Writable s.catalog)
    (hsent : deed.Sent Value.IsDocument) (hanswer : (deed.perform s).1.isUnencodable = false) :
    unreadOf (deed.perform s).2.catalog.file =
      (unreadOf s.catalog.file).filter fun v => !deed.drops s v := by
  obtain ⟨a, c, ha, hperform, hsame⟩ | ⟨ws, reply, hwrite, -, hperform⟩ := deed.perform_cases h.free hanswer
  · have hdeletes := deletes_of_answer ha
    rw [h.unread] at hdeletes
    rw [hperform, hsame.file_eq]
    refine (List.filter_eq_self.mpr ?_).symm
    intro v hv
    simp [Deed.drops, hperform, hsame.file_eq, hdeletes v hv]
  · have hws := Deed.write_lasts lasts_writable hsent h.workflows hwrite
    -- a writing makes a new version, even of the same text
    have hfile : (s.catalog.written ws (s.catalog.rest deed ws)).file ≠ s.catalog.file := by
      intro hsame
      have hversion : s.catalog.file.version + 1 = s.catalog.file.version := congrArg File.version hsame
      omega
    rw [hperform, h.unreadOf_written deed hws]
    refine List.filter_congr ?_
    intro v _
    simp [Deed.drops, hperform, hfile, current_written, stays_eq]

/-! ## Runs of deeds -/

section Runs

variable {deeds : List Deed} {s : Desk} (h : Faithful Workflow.Writable s.catalog)
  (hsent : ∀ deed ∈ deeds, deed.Sent Value.IsDocument)
  (hanswers : ∀ a ∈ answers (deeds.map .deed) s, Encodes a)

include h hsent hanswers

/-- What a run of deeds leaves of the unread entries are those that no deed of it takes out. -/
theorem unreadOf_run :
    unreadOf (after (deeds.map .deed) s).catalog.file =
      (unreadOf s.catalog.file).filter fun v => !along (fun deed s => deed.drops s v) deeds s := by
  induction deeds generalizing s with
  | nil => exact (List.filter_eq_self.mpr fun v _ => rfl).symm
  | cons deed deeds ih =>
      obtain ⟨hfirst, hrest⟩ := List.forall_mem_cons.mp hsent
      obtain ⟨hanswer, hanswers⟩ := List.forall_mem_cons.mp hanswers
      have hanswer := hanswer (deed.perform s).1 rfl
      have hnext := h.perform lasts_writable (fun _ hw => hw) hfirst hanswer
      have hstep := unreadOf_perform h hfirst hanswer
      show unreadOf (after (deeds.map .deed) (deed.perform s).2).catalog.file = _
      rw [ih hnext hrest hanswers, hstep, List.filter_filter]
      refine List.filter_congr ?_
      intro v _
      rw [along, Bool.not_or, Bool.and_comm]

/-- Where no workflow has the id of an entry, only the deeds that concern the entry take it out. -/
theorem along_drops {v : Value} (hother : ∀ w ∈ s.catalog.current.workflows, idOf? v ≠ some w.id)
    (hconcerns : along (fun deed s => deed.concerns s v) deeds s = false) :
    along (fun deed s => deed.drops s v) deeds s = false := by
  induction deeds generalizing s with
  | nil => rfl
  | cons deed deeds ih =>
      obtain ⟨hfirst, hrest⟩ := List.forall_mem_cons.mp hsent
      obtain ⟨hanswer, hanswers⟩ := List.forall_mem_cons.mp hanswers
      have hanswer := hanswer (deed.perform s).1 rfl
      have hnext := h.perform lasts_writable (fun _ hw => hw) hfirst hanswer
      obtain ⟨hconcern, hconcerns⟩ := Bool.or_eq_false_iff.mp hconcerns
      obtain ⟨hdeletes, hsaved⟩ := Bool.or_eq_false_iff.mp hconcern
      -- the workflows after the deed have other ids than the entry too
      have hids : ∀ w ∈ (deed.perform s).2.catalog.current.workflows, idOf? v ≠ some w.id := by
        obtain ⟨a, c, -, hperform, hsame⟩ | ⟨ws, reply, hwrite, -, hperform⟩ :=
          deed.perform_cases h.free hanswer
        · rw [hperform, hsame.current_eq]
          exact hother
        · rw [hperform] at hsaved
          rw [hperform, current_written]
          intro w hw hid
          obtain ⟨u, hu, hsame⟩ | hnew := Deed.exists_id_of_write hwrite hw
          · exact hother u hu (hsame ▸ hid)
          · simp [hid, hnew] at hsaved
      rw [along, Bool.or_eq_false_iff]
      refine ⟨?_, ih hnext hrest hanswers hids hconcerns⟩
      have hnone : ((deed.perform s).2.catalog.current.workflows.any fun w => idOf? v = some w.id) =
          false := by
        rw [List.any_eq_false]
        intro w hw
        simp [hids w hw]
      rw [Deed.drops, hdeletes, hnone, Bool.and_false]
      rfl

end Runs

/-- A run of deeds on a file, of which all writings succeed, leaves just those unread entries that no deed
takes out by deleting their id, or by writing the file where a workflow has it. So an entry stays as long as
no deed concerns it, if no workflow of the file has its id. -/
theorem unreadOf_after {f : File} (hfree : f.blocked = false) {deeds : List Deed}
    (hsent : ∀ deed ∈ deeds, deed.Sent Value.IsDocument) {d : Dice}
    (hanswers : ∀ a ∈ answers (deeds.map .deed) ⟨ofFile f, d⟩, Encodes a) :
    unreadOf (after (deeds.map .deed) ⟨ofFile f, d⟩).catalog.file =
        (unreadOf f).filter (fun v => !along (fun deed s => deed.drops s v) deeds ⟨ofFile f, d⟩) ∧
      ∀ v ∈ unreadOf f, (∀ w ∈ workflowsOf f, idOf? v ≠ some w.id) →
        along (fun deed s => deed.concerns s v) deeds ⟨ofFile f, d⟩ = false →
        v ∈ unreadOf (after (deeds.map .deed) ⟨ofFile f, d⟩).catalog.file := by
  have hfaithful : Faithful Workflow.Writable (ofFile f) := faithful_writable hfree rfl
  have hleft := unreadOf_run hfaithful hsent hanswers
  refine ⟨hleft, ?_⟩
  intro v hv hother hconcerns
  rw [← workflows_ofFile] at hother
  have hdrops := along_drops hfaithful hsent hanswers hother hconcerns
  rw [hleft, List.mem_filter]
  exact ⟨hv, by rw [hdrops]; rfl⟩

/-- A file of two workflows, with an entry between them that is no workflow. -/
def fileAround (id : Text) : File := fileOf [plain "a", broken id, plain "b"]

/-- One workflow is disabled, one is added and one is deleted, and then all are read. -/
def changes : List Deed := [.toggle "b", .accept 0 newWorkflow, .delete "a", .load]

theorem unreadOf_after_changes :
    let s : Desk := ⟨ofFile (fileAround "c"), .ofNumbers []⟩
    ((fileAround "c").blocked = false ∧ (∀ deed ∈ changes, deed.Sent Value.IsDocument) ∧
        (∀ a ∈ answers (changes.map .deed) s, Encodes a) ∧ broken "c" ∈ unreadOf (fileAround "c") ∧
        (∀ w ∈ workflowsOf (fileAround "c"), idOf? (broken "c") ≠ some w.id) ∧
        along (fun deed s => deed.concerns s (broken "c")) changes s = false) ∧
      unreadOf (after (changes.map .deed) s).catalog.file =
        (unreadOf (fileAround "c")).filter (fun v => !along (fun deed s => deed.drops s v) changes s) ∧
      broken "c" ∈ unreadOf (after (changes.map .deed) s).catalog.file := by
  have hfree : (fileAround "c").blocked = false := rfl
  have hsent : ∀ deed ∈ changes, deed.Sent Value.IsDocument := by
    simp only [changes, List.mem_cons, List.not_mem_nil, or_false]
    rintro deed (rfl | rfl | rfl | rfl)
    · exact trivial
    · exact isDocument_newWorkflow
    · exact trivial
    · exact trivial
  have hanswers : ∀ a ∈ answers (changes.map .deed) ⟨ofFile (fileAround "c"), .ofNumbers []⟩, Encodes a := by
    decide +kernel
  have hentry : broken "c" ∈ unreadOf (fileAround "c") := by decide +kernel
  have hother : ∀ w ∈ workflowsOf (fileAround "c"), idOf? (broken "c") ≠ some w.id := by decide +kernel
  have hconcerns : along (fun deed s => deed.concerns s (broken "c")) changes
      ⟨ofFile (fileAround "c"), .ofNumbers []⟩ = false := by decide +kernel
  obtain ⟨hleft, hstays⟩ := unreadOf_after hfree hsent hanswers
  exact ⟨⟨hfree, hsent, hanswers, hentry, hother, hconcerns⟩, hleft, hstays _ hentry hother hconcerns⟩

/-- An entry of the id of the first workflow is lost when the second one is disabled. -/
theorem unread_lost_beside_workflow :
    let s : Desk := ⟨ofFile (fileAround "a"), .ofNumbers []⟩
    broken "a" ∈ unreadOf (fileAround "a") ∧
      along (fun deed s => deed.concerns s (broken "a")) [.toggle "b"] s = false ∧
      (∀ a ∈ answers [.deed (.toggle "b")] s, Encodes a) ∧
      broken "a" ∉ Snapshot.entries (after [.deed (.toggle "b")] s).catalog.file := by
  refine ⟨?_, ?_, ?_, ?_⟩
  · decide +kernel
  · decide +kernel
  · decide +kernel
  · decide +kernel

end Catalog

end ChatFlow
