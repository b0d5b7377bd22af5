import ChatFlow.Proofs.Catalog.Reached
import ChatFlow.Proofs.Catalog.Slots

/-!
# Workflows that are changed

An editor that sends a workflow of a known id changes the first one that has it. What the editor left out keeps its
value, and so do all fields that are not among those of every workflow; only whether the workflow stops later ones is
taken from what was sent, and is not so if nothing about it was. The other workflows stay as they are.

A number that is not finite is written as null, so it is lost among the other fields of any workflow, changed or not,
when the file is read again.

* `Workflow.reread`: a workflow as it is read again.
* `Catalog.position`: which workflow is changed.
* `Catalog.Revises`: what stays of a workflow that is changed.
* `Catalog.revises_of_check`: what is read of the document that an editor makes of a workflow.
* `Catalog.accept_revises`: what becomes of each workflow.
* `Catalog.stop_lost`: a workflow that stops later ones no longer.
-/

namespace ChatFlow

/-! ## Workflows that are read again -/

namespace Workflow

variable {w u : Workflow}

/-- The workflow as it is read again when it was written. -/
def reread (w : Workflow) : Workflow := (check w.toValue).toOption.getD w

theorem check_toValue_eq_reread (h : idsDiffer w.nodes) : check w.toValue = .accepted w.reread := by
  obtain ⟨u, hu, -⟩ := exists_check_toValue h
  rw [reread, hu]
  rfl

/-- Only nodes and other fields may be read in another form. -/
theorem Writable.reread_eq (h : w.Writable) :
    w.reread = { w with nodes := w.reread.nodes, extra := Value.settledFields w.extra } := by
  obtain ⟨fs, hfs, hparts⟩ := exists_parts (check_toValue_eq_reread h.differ)
  cases hfs
  generalize w.reread = u at hparts
  have hconnections : Check.fieldOr (nodesOf w.toFields) "connections" [] (Check.list Connection.check) =
      .accepted w.connections := Check.items_map fun c _ => c.check_toValue
  have hextra : (nodesOf w.toFields).without names = Value.settledFields w.extra :=
    h.kept.settled.without_append rfl
  obtain ⟨id, name, kind, content, enabled, stop, nodes, connections, extra⟩ := u
  cases hparts.id
  cases hparts.name
  cases hparts.triggerKind
  cases hparts.triggerContent
  cases hparts.enabled
  cases hparts.stopPropagation
  cases hparts.extra.trans hextra
  cases hparts.connections.symm.trans hconnections
  rfl

end Workflow

namespace Catalog

/-- A file that was written holds the workflows as they are read again. -/
theorem workflowsOf_written (c : Catalog) {ws : List Workflow} {others : List (Nat × Value)}
    (hws : ∀ w ∈ ws, w.Writable) (hothers : ∀ e ∈ others, e.2.IsDocument ∧ Workflow.isRefused e.2 = true) :
    workflowsOf (c.written ws others).file = ws.map Workflow.reread := by
  have hrefused : ∀ e ∈ others, (Workflow.check e.2).toOption = none := by
    intro e he
    exact Option.isNone_iff_eq_none.mp (hothers e he).2
  rw [workflowsOf, entries_written c hws fun e he => (hothers e he).1, entriesOf, filterMap_place hrefused,
    List.filterMap_map, ← List.filterMap_eq_map]
  refine List.filterMap_congr ?_
  intro w hw
  show (Workflow.check w.toValue).toOption = some w.reread
  rw [Workflow.check_toValue_eq_reread (hws w hw).differ]
  rfl

/-! ## Which workflow is changed -/

/-- The index of the workflow that is changed by what an editor sent: the first one of the id. -/
def position (payload : Value) (ws : List Workflow) : Option Nat :=
  match idSent payload with
  | .ok id => if id.isEmpty then none else ws.findIdx? fun w => w.id = id
  | .error _ => none

theorem getElem?_replaced (id : Text) (new : Workflow) (ws : List Workflow) (i : Nat) :
    (replaced id new ws)[i]? = if (ws.findIdx? fun w => w.id = id) = some i then some new else ws[i]? := by
  induction ws generalizing i with
  | nil => rfl
  | cons u ws ih =>
      rw [replaced, List.findIdx?_cons]
      by_cases hid : u.id = id
      · cases i with
        | zero => simp [hid]
        | succ i => simp [hid]
      · cases i with
        | zero => simp [hid]
        | succ i => simp [hid, ih]

/-- The known workflow of the id that was sent stands at the position. -/
theorem position_of_known {payload : Value} {id : Text} {ws : List Workflow} {known : Workflow}
    (hid : idSent payload = .ok id) (h : known? id ws = some known) :
    position payload ws = (ws.findIdx? fun w => w.id = id) ∧
      ∀ i w, position payload ws = some i → ws[i]? = some w → w = known := by
  rw [known?] at h
  split at h
  · cases h
  · next hempty =>
      have hposition : position payload ws = ws.findIdx? fun w => w.id = id := by
        rw [position, hid]
        exact if_neg hempty
      refine ⟨hposition, ?_⟩
      intro i w hi hw
      rw [hposition] at hi
      obtain ⟨hlt, hsame, hbefore⟩ := List.findIdx?_eq_some_iff_getElem.mp hi
      have hfirst : (ws.find? fun w => w.id = id) = some w := by
        refine List.find?_eq_some_iff_getElem.mpr ⟨?_, i, hlt, ?_, ?_⟩
        · rw [List.getElem?_eq_getElem hlt] at hw
          cases hw
          exact hsame
        · exact (List.getElem?_eq_some_iff.mp hw).2
        · intro j hj
          simpa using hbefore j hj
      rw [h] at hfirst
      exact (Option.some.inj hfirst).symm

theorem position_of_unknown {payload : Value} {id : Text} {ws : List Workflow} (hid : idSent payload = .ok id)
    (h : known? id ws = none) : position payload ws = none := by
  rw [known?] at h
  rw [position, hid]
  split at h
  · next hempty => exact if_pos hempty
  · next hempty =>
      refine (if_neg hempty).trans ?_
      rw [List.findIdx?_eq_none_iff]
      intro w hw
      simpa using List.find?_eq_none.mp h w hw

/-! ## What stays of it -/

/-- The fields of the document that is made of a known workflow and what an editor sent. -/
structure Drafted (payload : Value) (known : Workflow) (fs : Fields Value) : Prop where
  nodes : Workflow.nodesOf fs = fs
  id : fs.get? "id" = some (.text known.id)
  name : fs.get? "name" = some (orOther (payload.fieldOrNull "name") (.text known.name))
  triggerKind : fs.get? "trigger_type" =
    some (orOther (payload.fieldOrNull "trigger_type") (.text known.triggerKind))
  triggerContent : fs.get? "trigger_content" =
    some ((payload.field? "trigger_content").getD (.text known.triggerContent))
  enabled : fs.get? "enabled" = some ((payload.field? "enabled").getD (.bool known.enabled))
  stopPropagation : fs.get? "stop_propagation" = some (.bool (payload.fieldOrNull "stop_propagation").truthy)
  extra : fs.without Workflow.names = known.toFields.without Workflow.names

theorem exists_drafted (payload : Value) (nodes : List Value) (known : Workflow) :
    ∃ fs, documentOf payload nodes (headOf payload known) = .object fs ∧ Drafted payload known fs := by
  refine ⟨_, rfl, ?_, ?_, ?_, ?_, ?_, ?_, ?_, ?_⟩
  · rw [Workflow.nodesOf, Fields.get?_set, if_neg (by decide), Fields.get?_set, if_pos rfl]
  · simp only [headOf, Fields.get?_set]
    rfl
  · simp only [headOf, Fields.get?_set]
    rfl
  · simp only [headOf, Fields.get?_set]
    rfl
  · simp only [headOf, Fields.get?_set]
    rfl
  · simp only [headOf, Fields.get?_set]
    rfl
  · simp only [headOf, Fields.get?_set]
    rfl
  · simp only [headOf]
    repeat rw [Fields.without_set (by decide)]

/-- What of a workflow stays when it is changed by what an editor sent: its id, what the editor left out, and all
other fields as they are written. -/
structure Revises (payload : Value) (w u : Workflow) : Prop where
  id : u.id = w.id
  name : payload.field? "name" = none → u.name = w.name
  triggerKind : payload.field? "trigger_type" = none → u.triggerKind = w.triggerKind
  triggerContent : payload.field? "trigger_content" = none → u.triggerContent = w.triggerContent
  enabled : payload.field? "enabled" = none → u.enabled = w.enabled
  extra : u.extra = Value.settledFields w.extra

section Revises

variable {payload : Value} {nodes : List Value} {known w u : Workflow}

/-- What is read of the document has what the editor left out, but stops later workflows only if that was sent. -/
theorem revises_of_check (hknown : known.Writable)
    (h : Workflow.check (documentOf payload nodes (headOf payload known)) = .accepted u) :
    Revises payload known u ∧ u.stopPropagation = (payload.fieldOrNull "stop_propagation").truthy := by
  obtain ⟨fs, hdocument, hdrafted⟩ := exists_drafted payload nodes known
  obtain ⟨gs, hgs, hparts⟩ := Workflow.exists_parts (hdocument ▸ h)
  cases hgs
  rw [hdrafted.nodes] at hparts
  have hid := hparts.id
  have hstop := hparts.stopPropagation
  rw [Check.field, hdrafted.id] at hid
  rw [Check.fieldOr, hdrafted.stopPropagation] at hstop
  refine ⟨⟨(Check.accepted.inj hid).symm, ?_, ?_, ?_, ?_, ?_⟩, (Check.accepted.inj hstop).symm⟩
  · intro hnone
    have hread := hparts.name
    rw [Check.fieldOr, hdrafted.name, Value.fieldOrNull, hnone] at hread
    exact (Check.accepted.inj hread).symm
  · intro hnone
    have hread := hparts.triggerKind
    rw [Check.fieldOr, hdrafted.triggerKind, Value.fieldOrNull, hnone] at hread
    exact (Check.accepted.inj hread).symm
  · intro hnone
    have hread := hparts.triggerContent
    rw [Check.fieldOr, hdrafted.triggerContent, hnone] at hread
    exact (Check.accepted.inj hread).symm
  · intro hnone
    have hread := hparts.enabled
    rw [Check.fieldOr, hdrafted.enabled, hnone] at hread
    exact (Check.accepted.inj hread).symm
  · rw [hparts.extra, hdrafted.extra]
    exact hknown.kept.settled.without_append rfl

/-- A workflow that was not changed stays as it is, but for other fields that are written in another form. -/
theorem revises_reread (payload : Value) (h : w.Writable) : Revises payload w w.reread := by
  rw [h.reread_eq]
  exact ⟨rfl, fun _ => rfl, fun _ => rfl, fun _ => rfl, fun _ => rfl, rfl⟩

/-- Reading again what was changed takes nothing more away. -/
theorem Revises.reread (h : Revises payload w u) (hw : w.Writable) (hu : u.Writable) :
    Revises payload w u.reread := by
  rw [hu.reread_eq]
  refine ⟨h.id, h.name, h.triggerKind, h.triggerContent, h.enabled, ?_⟩
  show Value.settledFields u.extra = _
  rw [h.extra, Value.settledFields_eq_self]
  intro f hf
  rw [Value.settledFields_eq] at hf
  obtain ⟨g, hg, rfl⟩ := List.mem_map.mp hf
  exact (hw.kept.documents g hg).settled_settled

end Revises

/-! ## What becomes of each workflow -/

section Accept

variable {seconds : Double} {payload : Value}

/-- What an editor sent is taken in only by a writing. -/
theorem isFailure_of_accept {ws : List Workflow} {unread : List Value} {d : Dice} {a : Answer}
    (h : ((Deed.accept seconds payload).outcome ws unread d).1 = .answer a) : a.isFailure = true := by
  have htake : ∀ {document : Value} {put : Workflow → List Workflow},
      Outcome.ofDocument document put = .answer a → a.isFailure = true := by
    intro document put htaken
    rw [Outcome.ofDocument] at htaken
    split at htaken
    · cases htaken
      rfl
    · cases htaken
  simp only [Deed.outcome] at h
  split at h
  · split at h
    · cases h
      rfl
    · split at h
      · cases h
        rfl
      · split at h
        · exact htake h
        · split at h
          · cases h
            rfl
          · exact htake h
  · cases h
    rfl

/-- If what an editor sent was taken in, the file was written. -/
theorem accept_done {s : Desk} (h : ((Deed.accept seconds payload).perform s).1.isFailure = false) :
    ∃ ws reply, ((Deed.accept seconds payload).comesTo s).1 = .write ws reply ∧
      ((Deed.accept seconds payload).perform s).2.catalog = s.catalog.written ws (s.catalog.rest .load ws) := by
  cases hcomes : ((Deed.accept seconds payload).comesTo s).1 with
  | answer a =>
      obtain ⟨c, hperform, -⟩ := Deed.perform_of_answer hcomes
      rw [hperform, isFailure_of_accept hcomes] at h
      cases h
  | write ws reply =>
      refine ⟨ws, reply, rfl, ?_⟩
      have hsave : (s.catalog.cleared (.accept seconds payload)).save ws = s.catalog.save ws := by
        rw [save_eq s.catalog, cleared_of_deletes_none (fun _ => rfl), cleared_of_deletes_none fun _ => rfl]
      have hperform := Deed.perform_write hcomes
      rw [hsave] at hperform
      rw [hperform] at h ⊢
      obtain ⟨-, -, -, w, -, -, -, rfl, -⟩ := Deed.outcome_accept hcomes
      refine (save_done ?_).2
      -- of what the writing may come to, only success is reported as such
      cases hanswer : (s.catalog.save ws).1 with
      | error fault =>
          rw [hanswer] at h
          cases h
      | ok done =>
          cases done with
          | false =>
              rw [hanswer] at h
              cases h
          | true => rfl

/-- Of the workflows that are written, the one at the position was changed, and all others that were there are as
they were. -/
theorem getElem?_write {ws ws' : List Workflow} {unread : List Value} {d : Dice} {reply : Except Fault Bool → Answer}
    (h : ((Deed.accept seconds payload).outcome ws unread d).1 = .write ws' reply) {i : Nat} {w : Workflow}
    (hw : ws[i]? = some w) :
    (position payload ws = some i ∧ ∃ nodes new, ws'[i]? = some new ∧
        Workflow.check (documentOf payload nodes (headOf payload w)) = .accepted new) ∨
      (position payload ws ≠ some i ∧ ws'[i]? = some w) := by
  obtain ⟨nodes, id, head, new, -, hid, hnew, -, hput⟩ := Deed.outcome_accept h
  rcases hput with ⟨known, hknown, rfl, rfl⟩ | ⟨hnone, id', rfl, rfl⟩
  · obtain ⟨hposition, hfirst⟩ := position_of_known hid hknown
    rw [getElem?_replaced, ← hposition]
    by_cases hi : position payload ws = some i
    · refine .inl ⟨hi, nodes, new, if_pos hi, ?_⟩
      rw [hfirst i w hi hw]
      exact hnew
    · exact .inr ⟨hi, (if_neg hi).trans hw⟩
  · refine .inr ⟨?_, ?_⟩
    · rw [position_of_unknown hid hnone]
      exact Option.some_ne_none i |>.symm
    · rw [List.getElem?_append_left (List.getElem?_eq_some_iff.mp hw).1, hw]

/-- If what an editor sent is taken in, every workflow stays in its place, in the catalog and in the file. The one
that is changed, and any that is read again, has what the editor left out and its other fields, but for numbers that
are not finite; but it stops later workflows only if that was sent. All other workflows are as they were. -/
theorem accept_revises {c : Catalog} (hc : Sound c) (hpayload : payload.IsDocument) (d : Dice)
    (hdone : (c.accept seconds payload d).1.map Report.success = .ok true) :
    let c' := (c.accept seconds payload d).2.1
    ∀ i w, c.load.1[i]? = some w → ∃ u, c'.load.1[i]? = some u ∧
      (ofFile c'.file).load.1[i]? = some u.reread ∧ Revises payload w u.reread ∧
      u.reread.stopPropagation = u.stopPropagation ∧
      (position payload c.load.1 = some i →
        Revises payload w u ∧ u.stopPropagation = (payload.fieldOrNull "stop_propagation").truthy) ∧
      (position payload c.load.1 ≠ some i → u = w) := by
  intro c' i w hw
  have hanswer : ((Deed.accept seconds payload).perform ⟨c, d⟩).1.isFailure = false := by
    show (Answer.report (c.accept seconds payload d).1).isFailure = false
    cases hreport : (c.accept seconds payload d).1 with
    | error fault =>
        rw [hreport] at hdone
        cases hdone
    | ok r =>
        rw [hreport] at hdone
        exact congrArg not (Except.ok.inj hdone)
  obtain ⟨ws, reply, hwrite, hcatalog⟩ := accept_done hanswer
  have hwritten : c' = c.written ws (c.rest .load ws) := hcatalog
  have hsent : (Deed.accept seconds payload).Sent Value.IsDocument := hpayload
  have hwritable : ∀ w ∈ ws, w.Writable := Deed.write_lasts lasts_writable hsent hc.current.workflows hwrite
  have hold : w.Writable := hc.current.workflows w (List.mem_of_getElem? hw)
  have hkept : c'.load.1 = ws := by
    rw [hwritten, load, current_written]
  have hread : (ofFile c'.file).load.1 = ws.map Workflow.reread := by
    rw [hwritten]
    refine (workflows_ofFile _).trans (workflowsOf_written c hwritable ?_)
    intro e he
    exact hc.current.unread e (List.mem_filter.mp he).1
  have hstops : ∀ {u : Workflow}, u.Writable → u.reread.stopPropagation = u.stopPropagation := by
    intro u hu
    rw [hu.reread_eq]
  have hmap : ∀ u, ws[i]? = some u → (ws.map Workflow.reread)[i]? = some u.reread := by
    intro u hu
    rw [List.getElem?_map, hu]
    rfl
  rw [hkept, hread]
  rcases getElem?_write hwrite hw with ⟨hi, nodes, u, hu, hcheck⟩ | ⟨hi, hsame⟩
  · obtain ⟨hrevises, hstop⟩ := revises_of_check hold hcheck
    have hnew : u.Writable := hwritable u (List.mem_of_getElem? hu)
    refine ⟨u, hu, hmap u hu, hrevises.reread hold hnew, hstops hnew, ?_, ?_⟩
    · exact fun _ => ⟨hrevises, hstop⟩
    · exact fun hne => absurd hi hne
  · refine ⟨w, hsame, hmap w hsame, revises_reread payload hold, hstops hold, ?_, ?_⟩
    · exact fun hsome => absurd hsome hi
    · exact fun _ => rfl

end Accept

/-- A workflow that stops later ones, with fields of its own of which one is a number that is not finite. -/
def stopping : Value :=
  .object [("id", .text "a"), ("name", .text "n"), ("enabled", .bool false), ("stop_propagation", .bool true),
    ("color", .text "red"), ("weight", .float (.infinite false)), ("nodes", .list [])]

/-- What an editor sends of it: the graph only. -/
def graphOnly : Value :=
  .object [("id", .text "a"), ("nodes", .list [.object [("id", .text "t"), ("type", .text "trigger")]])]

theorem accept_revises_of_sample :
    let c := ofFile (fileOf [plain "b", stopping])
    let c' := (c.accept 0 graphOnly (.ofNumbers [])).2.1
    (Sound c ∧ graphOnly.IsDocument ∧
        (c.accept 0 graphOnly (.ofNumbers [])).1.map Report.success = .ok true ∧
        position graphOnly c.load.1 = some 1) ∧
      ∃ w u, c.load.1[1]? = some w ∧ c'.load.1[1]? = some u ∧
        (ofFile c'.file).load.1[1]? = some u.reread ∧ Revises graphOnly w u ∧ Revises graphOnly w u.reread := by
  intro c c'
  have hsound : Sound c := sound_ofFile _
  have hpayload : graphOnly.IsDocument :=
    Json.isDocument_of_read? (t := Json.text .line graphOnly) (by decide +kernel)
  have htaken : (c.accept 0 graphOnly (.ofNumbers [])).1.map Report.success = .ok true ∧
      position graphOnly c.load.1 = some 1 ∧ (c.load.1[1]?).isSome = true := by
    decide +kernel
  obtain ⟨hdone, hposition, hsome⟩ := htaken
  obtain ⟨w, hw⟩ := Option.isSome_iff_exists.mp hsome
  obtain ⟨u, hu, hread, hreread, -, hchanged, -⟩ := accept_revises hsound hpayload (.ofNumbers []) hdone 1 w hw
  exact ⟨⟨hsound, hpayload, hdone, hposition⟩, w, u, hw, hu, hread, (hchanged hposition).1, hreread⟩

/-- A workflow stops later ones no longer, though nothing about it was sent; and a number of its own is lost. -/
theorem stop_lost :
    let c := ofFile (fileOf [stopping])
    let c' := (c.accept 0 graphOnly (.ofNumbers [])).2.1
    ((c.accept 0 graphOnly (.ofNumbers [])).1.map Report.success = .ok true ∧
        graphOnly.field? "stop_propagation" = none) ∧
      c.load.1.map Workflow.stopPropagation = [true] ∧ c'.load.1.map Workflow.stopPropagation = [false] ∧
      c.load.1.map (fun w => w.extra.get? "weight") = [some (.float (.infinite false))] ∧
      c'.load.1.map (fun w => w.extra.get? "weight") = [some .null] := by
  decide +kernel

end Catalog

end ChatFlow
