import ChatFlow.Proofs.Catalog.Edits

/-!
# What is done to a catalog

A deed reads or changes the catalog. What it comes to depends only on the workflows that were read, on the
unread entries without their places, and on the dice: it is an answer, or workflows to be written and an
answer that depends on the writing. Unread entries stay unless their id is deleted, or is that of a workflow
that is written.

* `Catalog.Deed`, `Catalog.Deed.perform`: what can be done, and how it is.
* `Catalog.Deed.outcome`: what it comes to.
* `Catalog.Deed.perform_cases`: a deed leaves the file as it is, or writes it as its outcome says.
* `Catalog.Turn`: a deed, or a change of the file from elsewhere.
-/

namespace ChatFlow

namespace Catalog

/-! ## What was read last -/

section Current

variable {c : Catalog} {s : Snapshot}

theorem tag_current (c : Catalog) : c.current.tag = c.file.tag? := by
  unfold current
  split
  · split
    · assumption
    · rfl
  · rfl

theorem current_keep (h : s.tag = c.file.tag?) : (c.keep s).current = s := if_pos h

@[simp]
theorem current_keep_current (c : Catalog) : (c.keep c.current).current = c.current :=
  current_keep c.tag_current

end Current

/-! ## New ids -/

/-- There is always one of some things. -/
theorem exists_pick {α : Type} (things : List α) (h : things ≠ []) (d : Dice) :
    ∃ thing ∈ things, ∃ d', d.pick things = .ok (thing, d') := by
  have hpos : ¬ ((things.length : Int) ≤ 0) := by
    have hlength := List.length_pos_of_ne_nil h
    omega
  obtain ⟨m, d', hm⟩ : ∃ m d', d.below things.length = .ok (m, d') := ⟨_, _, if_neg hpos⟩
  obtain ⟨hlow, hhigh⟩ := Dice.below_lt hm
  have hlt : m.toNat < things.length := by omega
  refine ⟨things[m.toNat], List.getElem_mem hlt, d', ?_⟩
  simp only [Dice.pick, hm, bind, Except.bind, List.getElem?_eq_getElem hlt]

/-- Digits can always be drawn. -/
theorem exists_drawDigits (count : Nat) (d : Dice) :
    ∃ t d', drawDigits count d = .ok (t, d') ∧ t.length = count ∧ t ⊆ Base36.digits := by
  induction count generalizing d with
  | zero => exact ⟨[], d, rfl, rfl, List.nil_subset _⟩
  | succ count ih =>
      obtain ⟨c, hmem, d₁, hc⟩ := exists_pick Base36.digits (by decide) d
      obtain ⟨t, d₂, ht, hlength, hdigits⟩ := ih d₁
      refine ⟨c :: t, d₂, ?_, congrArg Nat.succ hlength, List.cons_subset.mpr ⟨hmem, hdigits⟩⟩
      simp only [drawDigits, hc, ht, bind, Except.bind]
      rfl

theorem newId_of_drawDigits {t : Text} {d d' : Dice} (h : drawDigits randomDigits d = .ok (t, d')) (seconds : Double) :
    newId seconds d = .ok ("wf_" ++ Base36.ofInt (milliseconds seconds) ++ t, d') := by
  simp only [newId, h, bind, Except.bind]
  rfl

/-- A new id can always be drawn. It begins with letters and ends with digits. -/
theorem exists_newId (seconds : Double) (d : Dice) :
    ∃ t d', newId seconds d = .ok ("wf_" ++ Base36.ofInt (milliseconds seconds) ++ t, d') ∧
      t.length = randomDigits ∧ t ⊆ Base36.digits := by
  obtain ⟨t, d', ht, hlength, hdigits⟩ := exists_drawDigits randomDigits d
  exact ⟨t, d', newId_of_drawDigits ht seconds, hlength, hdigits⟩

/-! ## Deeds -/

/-- What can be done to a catalog. What an editor sent is taken in at a time, in seconds since 1970. -/
inductive Deed where
  | load
  | get (id : Text)
  | delete (id : Text)
  | toggle (id : Text)
  | accept (seconds : Double) (payload : Value)

/-- What is answered to a deed. -/
inductive Answer where
  | workflows (ws : List Workflow)
  | workflow (w : Option Workflow)
  | changed (r : Except Fault Bool)
  | report (r : Except Fault Report)

/-- Does the answer tell that the file could not be encoded? -/
def Answer.isUnencodable : Answer → Bool
  | changed (.error .unencodable) | report (.error .unencodable) => true
  | _ => false

/-- A catalog, and the dice by which new ids are drawn. -/
structure Desk where
  catalog : Catalog
  dice : Dice

namespace Deed

/-- Does what is asked. -/
def perform : Deed → Desk → Answer × Desk
  | load, ⟨c, d⟩ => (.workflows c.load.1, ⟨c.load.2, d⟩)
  | get id, ⟨c, d⟩ => (.workflow (c.get id).1, ⟨(c.get id).2, d⟩)
  | delete id, ⟨c, d⟩ => (.changed (c.delete id).1, ⟨(c.delete id).2, d⟩)
  | toggle id, ⟨c, d⟩ => (.changed (c.toggle id).1, ⟨(c.toggle id).2, d⟩)
  | accept seconds payload, ⟨c, d⟩ =>
    let (r, c, d) := c.accept seconds payload d
    (.report r, ⟨c, d⟩)

/-- Does the deed delete the id of an entry? -/
def deletes : Deed → Value → Bool
  | delete id, v => idOf? v = some id
  | _, _ => false

end Deed

/-! ## What a deed comes to -/

/-- An answer, or workflows to be written with the answer to the writing. -/
inductive Outcome where
  | answer (a : Answer)
  | write (ws : List Workflow) (reply : Except Fault Bool → Answer)

/-- What is answered when a workflow of an id was taken in and written. -/
def reportOf (id : Text) (r : Except Fault Bool) : Answer :=
  .report (r.map fun done => if done then .done "已保存" [("id", .text id)] else .failed unsaved)

/-- Taking in a document of a workflow into the list of workflows by `put`. -/
def Outcome.ofDocument (document : Value) (put : Workflow → List Workflow) : Outcome :=
  match Workflow.check document with
  | .refused count => .answer (.report (.ok (.failed (refusal count))))
  | .accepted w => .write (put w) (reportOf w.id)

theorem known?_eq_some {id : Text} {ws : List Workflow} {w : Workflow} (h : known? id ws = some w) :
    w ∈ ws ∧ w.id = id := by
  rw [known?] at h
  split at h
  · cases h
  · exact ⟨List.mem_of_find?_eq_some h, by simpa using List.find?_some h⟩

namespace Deed

/-- What a deed comes to where these workflows and these unread entries are. -/
def outcome (deed : Deed) (ws : List Workflow) (unread : List Value) (d : Dice) : Outcome × Dice :=
  match deed with
  | load => (.answer (.workflows ws), d)
  | get id => (.answer (.workflow (ws.find? fun w => w.id = id)), d)
  | delete id =>
    let rest := ws.filter fun w => w.id ≠ id
    if rest.length = ws.length && (unread.filter fun v => idOf? v ≠ some id).length = unread.length then
      (.answer (.changed (.ok false)), d)
    else (.write rest .changed, d)
  | toggle id =>
    match toggled? id ws with
    | some ws => (.write ws .changed, d)
    | none => (.answer (.changed (.ok false)), d)
  | accept seconds payload =>
    match payload with
    | .object _ =>
      match nodesOf payload with
      | .error reason => (.answer (.report (.ok (.failed reason))), d)
      | .ok nodes =>
        match idSent payload with
        | .error fault => (.answer (.report (.error fault)), d)
        | .ok id =>
          match known? id ws with
          | some known =>
            (.ofDocument (documentOf payload nodes (headOf payload known)) fun w => replaced id w ws, d)
          | none =>
            match if id.isEmpty then newId seconds d else .ok (id, d) with
            | .error fault => (.answer (.report (.error fault)), d)
            | .ok (id, d) =>
              (.ofDocument (documentOf payload nodes (newHead payload id)) fun w => ws ++ [w], d)
    | _ => (.answer (.report (.error .noFields)), d)

end Deed

/-- Keeps what was read, without the unread entries of which a deed deletes the id. -/
def cleared (c : Catalog) (deed : Deed) : Catalog :=
  c.keep { c.current with unread := c.current.unread.filter fun e => !deed.deletes e.2 }

/-- The catalog and the answer after a deed are those of an outcome. -/
def Outcome.Yields (deed : Deed) (c : Catalog) (a : Answer) (c' : Catalog) : Outcome → Prop
  | .answer b => a = b ∧ (c' = c ∨ c' = c.keep c.current)
  | .write ws reply => a = reply ((c.cleared deed).save ws).1 ∧ c' = ((c.cleared deed).save ws).2

theorem cleared_of_deletes_none {deed : Deed} (h : ∀ v, deed.deletes v = false) (c : Catalog) :
    c.cleared deed = c.keep c.current := by
  have hall : c.current.unread.filter (fun e => !deed.deletes e.2) = c.current.unread := by
    rw [List.filter_eq_self]
    intro e _
    rw [h]
    rfl
  rw [cleared, hall]

/-- A document is taken in as its outcome says. -/
theorem acceptDocument_yields (deed : Deed) (h : ∀ v, deed.deletes v = false) (c : Catalog)
    (document : Value) (put : Workflow → List Workflow) :
    (Outcome.ofDocument document put).Yields deed c
      (.report ((c.keep c.current).acceptDocument document put).1)
      ((c.keep c.current).acceptDocument document put).2 := by
  rw [Outcome.ofDocument, acceptDocument]
  cases Workflow.check document with
  | refused count => exact ⟨rfl, .inr rfl⟩
  | accepted w =>
      rw [Outcome.Yields, cleared_of_deletes_none h]
      exact ⟨rfl, rfl⟩

namespace Deed

/-- A deed is done as its outcome says. -/
theorem perform_yields (deed : Deed) (s : Desk) :
    let o := deed.outcome s.catalog.current.workflows (s.catalog.current.unread.map Prod.snd) s.dice
    o.1.Yields deed s.catalog (deed.perform s).1 (deed.perform s).2.catalog ∧
      (deed.perform s).2.dice = o.2 := by
  obtain ⟨c, d⟩ := s
  cases deed with
  | load => exact ⟨⟨rfl, .inr rfl⟩, rfl⟩
  | get id => exact ⟨⟨rfl, .inr rfl⟩, rfl⟩
  | delete id =>
      have hstay : (c.current.unread.filter fun e => idOf? e.2 ≠ some id) =
          c.current.unread.filter fun e => !(Deed.delete id).deletes e.2 :=
        List.filter_congr fun e _ => decide_not
      have hcount : ((c.current.unread.map Prod.snd).filter fun v => idOf? v ≠ some id).length =
          (c.current.unread.filter fun e => idOf? e.2 ≠ some id).length := by
        rw [List.filter_map, List.length_map]
        rfl
      simp only [perform, outcome, Catalog.delete, hcount, List.length_map]
      split
      · exact ⟨⟨rfl, .inr rfl⟩, rfl⟩
      · rw [hstay]
        exact ⟨⟨rfl, rfl⟩, rfl⟩
  | toggle id =>
      have hcleared : c.cleared (.toggle id) = c.keep c.current := cleared_of_deletes_none (fun _ => rfl) c
      simp only [perform, outcome, Catalog.toggle]
      cases toggled? id c.current.workflows with
      | some ws =>
          rw [Outcome.Yields, hcleared]
          exact ⟨⟨rfl, rfl⟩, rfl⟩
      | none => exact ⟨⟨rfl, .inr rfl⟩, rfl⟩
  | accept seconds payload =>
      -- what was sent is looked at before anything is read, so nothing may be kept yet
      have htake := acceptDocument_yields (.accept seconds payload) (fun _ => rfl) c
      simp only [perform, outcome, Catalog.accept]
      cases payload with
      | object fs =>
          cases nodesOf (.object fs) with
          | error reason => exact ⟨⟨rfl, .inl rfl⟩, rfl⟩
          | ok nodes =>
              cases idSent (.object fs) with
              | error fault => exact ⟨⟨rfl, .inr rfl⟩, rfl⟩
              | ok id =>
                  simp only [acceptNodes, current_keep_current]
                  cases known? id c.current.workflows with
                  | some known => exact ⟨htake _ _, rfl⟩
                  | none =>
                      dsimp only
                      cases (if id.isEmpty then newId seconds d else .ok (id, d)) with
                      | error fault => exact ⟨⟨rfl, .inr rfl⟩, rfl⟩
                      | ok drawn => exact ⟨htake _ _, rfl⟩
      | _ => exact ⟨⟨rfl, .inl rfl⟩, rfl⟩

/-- Switching a workflow changes nothing else. -/
theorem exists_of_toggled? {id : Text} {ws ws' : List Workflow} (h : toggled? id ws = some ws') {w : Workflow}
    (hw : w ∈ ws') : ∃ u ∈ ws, ∃ b, w = { u with enabled := b } := by
  induction ws generalizing ws' with
  | nil => cases h
  | cons u ws ih =>
      rw [toggled?] at h
      split at h
      · cases h
        rcases List.mem_cons.mp hw with rfl | hw
        · exact ⟨u, List.mem_cons_self, _, rfl⟩
        · exact ⟨w, List.mem_cons_of_mem u hw, w.enabled, rfl⟩
      · obtain ⟨us, hus, rfl⟩ := Option.map_eq_some_iff.mp h
        rcases List.mem_cons.mp hw with rfl | hw
        · exact ⟨w, List.mem_cons_self, w.enabled, rfl⟩
        · obtain ⟨x, hx, hsame⟩ := ih hus hw
          exact ⟨x, List.mem_cons_of_mem u hx, hsame⟩

theorem mem_replaced {id : Text} {new w : Workflow} {ws : List Workflow} (h : w ∈ replaced id new ws) :
    w = new ∨ w ∈ ws := by
  induction ws with
  | nil => exact .inr h
  | cons u ws ih =>
      rw [replaced] at h
      split at h
      · rcases List.mem_cons.mp h with hnew | hold
        · exact .inl hnew
        · exact .inr (List.mem_cons_of_mem u hold)
      · rcases List.mem_cons.mp h with hfirst | hrest
        · exact .inr (List.mem_cons.mpr (.inl hfirst))
        · exact (ih hrest).imp_right (List.mem_cons_of_mem u)

/-- A document is taken in as the workflow that is read of it. -/
theorem ofDocument_write {document : Value} {put : Workflow → List Workflow} {ws' : List Workflow}
    {reply : Except Fault Bool → Answer} (h : Outcome.ofDocument document put = .write ws' reply) :
    ∃ w, Workflow.check document = .accepted w ∧ reply = reportOf w.id ∧ ws' = put w := by
  rw [Outcome.ofDocument] at h
  split at h
  · cases h
  · next w hw =>
      cases h
      exact ⟨w, hw, rfl, rfl⟩

/-- How a workflow that an editor sent comes to be written: in the place of the known one of its id, or at the
end if there is none. -/
theorem outcome_accept {seconds : Double} {payload : Value} {ws ws' : List Workflow} {unread : List Value}
    {d : Dice} {reply : Except Fault Bool → Answer}
    (h : ((Deed.accept seconds payload).outcome ws unread d).1 = .write ws' reply) :
    ∃ nodes id head w, nodesOf payload = .ok nodes ∧ idSent payload = .ok id ∧
      Workflow.check (documentOf payload nodes head) = .accepted w ∧ reply = reportOf w.id ∧
      ((∃ known, known? id ws = some known ∧ head = headOf payload known ∧ ws' = replaced id w ws) ∨
        known? id ws = none ∧ ∃ id, head = newHead payload id ∧ ws' = ws ++ [w]) := by
  simp only [outcome] at h
  split at h
  · next fields =>
      split at h
      · cases h
      · next nodes hnodes =>
          split at h
          · cases h
          · next id hid =>
              split at h
              · next known hknown =>
                  obtain ⟨w, hw, hreply, hput⟩ := ofDocument_write h
                  exact ⟨nodes, id, _, w, hnodes, hid, hw, hreply, .inl ⟨known, hknown, rfl, hput⟩⟩
              · next hnone =>
                  split at h
                  · cases h
                  · next id' _ _ =>
                      obtain ⟨w, hw, hreply, hput⟩ := ofDocument_write h
                      exact ⟨nodes, id, _, w, hnodes, hid, hw, hreply, .inr ⟨hnone, id', rfl, hput⟩⟩
  · cases h

/-- How workflows come to be written: one is left out, switched, replaced or added. -/
theorem outcome_write {deed : Deed} {ws ws' : List Workflow} {unread : List Value} {d : Dice}
    {reply : Except Fault Bool → Answer} (h : (deed.outcome ws unread d).1 = .write ws' reply) :
    (∃ id, deed = .delete id ∧ ws' = ws.filter (fun w => w.id ≠ id) ∧ reply = .changed) ∨
      (∃ id, deed = .toggle id ∧ toggled? id ws = some ws' ∧ reply = .changed) ∨
      ∃ seconds payload nodes head w, deed = .accept seconds payload ∧ nodesOf payload = .ok nodes ∧
        Workflow.check (documentOf payload nodes head) = .accepted w ∧ reply = reportOf w.id ∧
        ((∃ known ∈ ws, head = headOf payload known ∧ ws' = replaced known.id w ws) ∨
          ∃ id, head = newHead payload id ∧ ws' = ws ++ [w]) := by
  cases deed with
  | load => cases h
  | get id => cases h
  | delete id =>
      simp only [outcome] at h
      split at h
      · cases h
      · cases h
        exact .inl ⟨id, rfl, rfl, rfl⟩
  | toggle id =>
      simp only [outcome] at h
      split at h
      · next changed hchanged =>
          cases h
          exact .inr (.inl ⟨id, rfl, hchanged, rfl⟩)
      · cases h
  | accept seconds payload =>
      obtain ⟨nodes, id, head, w, hnodes, -, hw, hreply, hput⟩ := outcome_accept h
      refine .inr (.inr ⟨seconds, payload, nodes, head, w, rfl, hnodes, hw, hreply, ?_⟩)
      obtain ⟨known, hknown, hhead, hws⟩ | ⟨-, hnew⟩ := hput
      · obtain ⟨hmem, rfl⟩ := known?_eq_some hknown
        exact .inl ⟨known, hmem, hhead, hws⟩
      · exact .inr hnew

end Deed

/-! ## Writing -/

/-- Does an unread entry stay when a deed writes workflows? Its id is not deleted, and none of theirs. -/
def stays (deed : Deed) (ws : List Workflow) (v : Value) : Bool :=
  !deed.deletes v && (idOf? v).all fun id => !(ws.map (·.id)).contains id

/-- The unread entries that stay, with the places that are known of them. -/
def rest (c : Catalog) (deed : Deed) (ws : List Workflow) : List (Nat × Value) :=
  c.current.unread.filter fun e => stays deed ws e.2

/-- Which entries stay does not depend on their places. -/
theorem map_rest (c : Catalog) (deed : Deed) (ws : List Workflow) :
    (c.rest deed ws).map Prod.snd = (c.current.unread.map Prod.snd).filter (stays deed ws) := by
  rw [List.filter_map]
  rfl

/-- The entries that are written. -/
def entriesOf (ws : List Workflow) (others : List (Nat × Value)) : List Value :=
  place (ws.map Workflow.toValue) others

/-- The text that is written. -/
def textOf (ws : List Workflow) (others : List (Nat × Value)) : Text :=
  Json.text .file (.list (entriesOf ws others))

/-- The catalog after workflows and other entries were written. -/
def written (c : Catalog) (ws : List Workflow) (others : List (Nat × Value)) : Catalog where
  file := ⟨some (textOf ws others), c.file.version + 1, false⟩
  snapshot := some ⟨ws, others, some (c.file.version + 1)⟩

theorem current_written (c : Catalog) (ws : List Workflow) (others : List (Nat × Value)) :
    (c.written ws others).current = ⟨ws, others, some (c.file.version + 1)⟩ := if_pos rfl

/-- A file whose place is free is written if the text can be encoded. -/
theorem save_cleared {c : Catalog} (hfree : c.file.blocked = false) (deed : Deed) (ws : List Workflow) :
    (c.cleared deed).save ws =
      if (textOf ws (c.rest deed ws)).isWellFormed then (.ok true, c.written ws (c.rest deed ws))
      else (.error .unencodable, ⟨c.file.put (some []), some (c.cleared deed).current⟩) := by
  have hcurrent : (c.cleared deed).current = { c.current with
      unread := c.current.unread.filter fun e => !deed.deletes e.2 } := current_keep c.tag_current
  have hput : ∀ t, c.file.put t = ⟨t, c.file.version + 1, false⟩ := by
    intro t
    rw [File.put, hfree]
    rfl
  have hwrite : (c.cleared deed).file.writeDocument
        (.list (place (ws.map Workflow.toValue) (c.rest deed ws))) =
      if (textOf ws (c.rest deed ws)).isWellFormed then
        (.ok true, ⟨some (textOf ws (c.rest deed ws)), c.file.version + 1, false⟩)
      else (.error .unencodable, c.file.put (some [])) := by
    rw [← hput]
    show c.file.write (textOf ws (c.rest deed ws)) = _
    rw [File.write, hfree]
    rfl
  have hrest : ((c.cleared deed).current.unread.filter fun e =>
      (idOf? e.2).all fun id => !(ws.map (·.id)).contains id) = c.rest deed ws := by
    rw [hcurrent, List.filter_filter]
    exact List.filter_congr fun e _ => Bool.and_comm ..
  simp only [save, hrest, hwrite]
  by_cases hwf : (textOf ws (c.rest deed ws)).isWellFormed = true
  · simp only [hwf, if_true]
    rfl
  · simp only [hwf]
    rfl

/-- What was read is kept at most. -/
def Unchanged (c c' : Catalog) : Prop := c' = c ∨ c' = c.keep c.current

theorem Unchanged.file_eq {c c' : Catalog} (h : Unchanged c c') : c'.file = c.file := by
  obtain rfl | rfl := h
  · rfl
  · rfl

theorem Unchanged.current_eq {c c' : Catalog} (h : Unchanged c c') : c'.current = c.current := by
  obtain rfl | rfl := h
  · rfl
  · exact current_keep_current c

namespace Deed

/-- What a deed comes to at a desk. -/
def comesTo (deed : Deed) (s : Desk) : Outcome × Dice :=
  deed.outcome s.catalog.current.workflows (s.catalog.current.unread.map Prod.snd) s.dice

variable {deed : Deed} {s : Desk} {ws : List Workflow} {reply : Except Fault Bool → Answer} {a : Answer}

/-- Every reply passes on that a text cannot be encoded. -/
theorem isUnencodable_of_write (h : (deed.comesTo s).1 = .write ws reply) :
    (reply (.error .unencodable)).isUnencodable = true := by
  obtain ⟨id, -, -, rfl⟩ | ⟨id, -, -, rfl⟩ | ⟨-, -, -, -, w, -, -, -, rfl, -⟩ := outcome_write h
  · rfl
  · rfl
  · rfl

/-- A deed that comes to an answer gives it, and leaves the file as it is. -/
theorem perform_of_answer (h : (deed.comesTo s).1 = .answer a) :
    ∃ c, deed.perform s = (a, ⟨c, (deed.comesTo s).2⟩) ∧ Unchanged s.catalog c := by
  obtain ⟨hyields, hdice⟩ := perform_yields deed s
  change (deed.comesTo s).1.Yields .. at hyields
  rw [h] at hyields
  obtain ⟨hanswer, hcatalog⟩ := hyields
  refine ⟨(deed.perform s).2.catalog, ?_, hcatalog⟩
  rw [← hanswer, comesTo, ← hdice]

/-- A deed that comes to a writing is answered as the writing goes. -/
theorem perform_write (h : (deed.comesTo s).1 = .write ws reply) :
    deed.perform s = (reply ((s.catalog.cleared deed).save ws).1,
      ⟨((s.catalog.cleared deed).save ws).2, (deed.comesTo s).2⟩) := by
  obtain ⟨hyields, hdice⟩ := perform_yields deed s
  change (deed.comesTo s).1.Yields .. at hyields
  rw [h] at hyields
  obtain ⟨hanswer, hcatalog⟩ := hyields
  rw [← hanswer, ← hcatalog, comesTo, ← hdice]

section Written

variable (hfree : s.catalog.file.blocked = false) (h : (deed.comesTo s).1 = .write ws reply)

include hfree h

/-- A deed that comes to a writing is done as the text can be encoded. -/
theorem perform_of_write (hwf : (textOf ws (s.catalog.rest deed ws)).isWellFormed = true) :
    deed.perform s =
      (reply (.ok true), ⟨s.catalog.written ws (s.catalog.rest deed ws), (deed.comesTo s).2⟩) := by
  rw [perform_write h, save_cleared hfree, if_pos hwf]

/-- The answer tells when the text cannot be encoded. -/
theorem isWellFormed_of_answer (hanswer : (deed.perform s).1.isUnencodable = false) :
    (textOf ws (s.catalog.rest deed ws)).isWellFormed = true := by
  by_contra hwf
  rw [perform_write h, save_cleared hfree, if_neg hwf] at hanswer
  rw [isUnencodable_of_write h] at hanswer
  cases hanswer

end Written

/-- A deed after which all is encoded leaves the file as it is, or writes it as its outcome says. -/
theorem perform_cases (deed : Deed) {s : Desk} (hfree : s.catalog.file.blocked = false)
    (hanswer : (deed.perform s).1.isUnencodable = false) :
    (∃ a c, (deed.comesTo s).1 = .answer a ∧ deed.perform s = (a, ⟨c, (deed.comesTo s).2⟩) ∧
        Unchanged s.catalog c) ∨
      ∃ ws reply, (deed.comesTo s).1 = .write ws reply ∧
        (textOf ws (s.catalog.rest deed ws)).isWellFormed = true ∧
        deed.perform s =
          (reply (.ok true), ⟨s.catalog.written ws (s.catalog.rest deed ws), (deed.comesTo s).2⟩) := by
  cases h : (deed.comesTo s).1 with
  | answer a =>
      obtain ⟨c, hperform, hsame⟩ := perform_of_answer h
      exact .inl ⟨a, c, rfl, hperform, hsame⟩
  | write ws reply =>
      have hwf := isWellFormed_of_answer hfree h hanswer
      exact .inr ⟨ws, reply, rfl, hwf, perform_of_write hfree h hwf⟩

/-- What an editor sent is of a kind. -/
def Sent (Q : Value → Prop) : Deed → Prop
  | accept _ payload => Q payload
  | _ => True

/-- Workflows that are written stay of their kind. -/
theorem write_lasts {Q : Value → Prop} {P : Workflow → Prop} (hlasts : Lasts Q P) (hsent : deed.Sent Q)
    (hall : ∀ w ∈ s.catalog.current.workflows, P w) (h : (deed.comesTo s).1 = .write ws reply) :
    ∀ w ∈ ws, P w := by
  obtain ⟨id, -, rfl, -⟩ | ⟨id, -, htoggled, -⟩ | ⟨_, _, _, _, w, rfl, hnodes, hw, -, hput⟩ := outcome_write h
  · intro w hw
    exact hall w (List.mem_filter.mp hw).1
  · intro w hw
    obtain ⟨u, hu, b, rfl⟩ := exists_of_toggled? htoggled hw
    exact hlasts.enabled (hall u hu) b
  · have hparts := layered_nodesOf hlasts.layered hsent hnodes
    obtain ⟨known, hknown, rfl, rfl⟩ | ⟨id, rfl, rfl⟩ := hput
    · have hhead := layered_headOf hlasts.layered hsent (hlasts.written (hall known hknown))
      have hnew := hlasts.read (layered_documentOf hlasts.layered hsent hparts hhead) hw
      intro u hu
      rcases mem_replaced hu with rfl | hold
      · exact hnew
      · exact hall u hold
    · have hhead := layered_newHead hlasts.layered hsent id
      have hnew := hlasts.read (layered_documentOf hlasts.layered hsent hparts hhead) hw
      intro u hu
      rcases List.mem_append.mp hu with hold | hadded
      · exact hall u hold
      · rw [List.mem_singleton.mp hadded]
        exact hnew

end Deed

/-! ## Runs -/

/-- A deed, or a change of the file from elsewhere. -/
inductive Turn where
  | deed (deed : Deed)
  | edit (content : Option Text)

namespace Turn

/-- What is done at a turn; a change from elsewhere is not answered. -/
def perform : Turn → Desk → Option Answer × Desk
  | deed d, s => (some (d.perform s).1, (d.perform s).2)
  | edit content, ⟨c, d⟩ => (none, ⟨⟨c.file.put content, c.snapshot⟩, d⟩)

end Turn

/-- The answers of turns one after the other. -/
def answers : List Turn → Desk → List (Option Answer)
  | [], _ => []
  | t :: turns, s => (t.perform s).1 :: answers turns (t.perform s).2

/-- Could all be encoded that was to be written, if the turn was answered? -/
def Encodes (a : Option Answer) : Prop := ∀ b ∈ a, b.isUnencodable = false

instance (a : Option Answer) : Decidable (Encodes a) :=
  inferInstanceAs (Decidable (∀ b ∈ a, b.isUnencodable = false))

/-- The desk after turns. -/
def after : List Turn → Desk → Desk
  | [], s => s
  | t :: turns, s => after turns (t.perform s).2

end Catalog

end ChatFlow
