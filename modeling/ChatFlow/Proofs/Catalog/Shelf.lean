import ChatFlow.Proofs.Catalog.Failures
import ChatFlow.Proofs.Catalog.Unread

/-!
# A catalog as an ordered map

Where all ids differ, a catalog is a map from ids to workflows that keeps the order in which these were added,
beside the entries that are no workflows. What is done to the catalog is answered as of this map, and changes
it as it says: a workflow is put under its id, in the place of the one that had it or at the end; the id that
is deleted is taken out; a workflow is switched in its place. Whoever opens the file finds the same map, if
there are no numbers in it that are not finite.

* `Catalog.Shelf`: the map, and the entries beside it.
* `Catalog.Shelf.Step`: what a deed is answered, and what it makes of the shelf.
* `Catalog.Shelf.Step.nodup`: ids that differ keep doing so.
* `Catalog.step_perform`: a deed is done as the shelf says.
* `Catalog.run_shelf`: a run of deeds, and what a catalog that is opened behind it reads.
* `Catalog.value_lost_behind_switch`: a number that is not finite.
-/

namespace ChatFlow

namespace Catalog

/-! ## Ordered maps -/

variable {ws : List Workflow} {w new : Workflow} {id : Text} {us : List Value}

/-- Workflows under their ids. -/
def keyed (ws : List Workflow) : Fields Workflow := ws.map fun w => (w.id, w)

theorem keyed_cons (w : Workflow) (ws : List Workflow) : keyed (w :: ws) = (w.id, w) :: keyed ws := rfl

theorem names_keyed (ws : List Workflow) : (keyed ws).names = ws.map (·.id) := by
  rw [Fields.names, keyed, List.map_map]
  rfl

theorem get?_keyed (ws : List Workflow) (id : Text) : (keyed ws).get? id = ws.find? fun w => w.id = id := by
  induction ws with
  | nil => rfl
  | cons w ws ih =>
      rw [keyed_cons, Fields.get?, List.find?_cons]
      by_cases hid : w.id = id
      · simp [hid]
      · simp only [hid, if_false, decide_false]
        exact ih

theorem id_of_get?_keyed (h : (keyed ws).get? id = some w) : w.id = id := by
  rw [get?_keyed] at h
  simpa using List.find?_some h

theorem keyed_filter (ws : List Workflow) (id : Text) :
    keyed (ws.filter fun w => w.id ≠ id) = (keyed ws).erase id := by
  rw [keyed, keyed, Fields.erase, List.filter_map]
  rfl

/-- A workflow that is replaced is put in the place of the known one. -/
theorem keyed_replaced (hid : new.id = id) (h : (keyed ws).get? id = some w) :
    keyed (replaced id new ws) = (keyed ws).set id new := by
  induction ws with
  | nil => cases h
  | cons u ws ih =>
      rw [keyed_cons, Fields.get?] at h
      rw [replaced, keyed_cons, Fields.set]
      by_cases hsame : u.id = id
      · rw [if_pos hsame, if_pos hsame, keyed_cons, hsame, hid]
      · rw [if_neg hsame] at h
        rw [if_neg hsame, if_neg hsame, keyed_cons, ih h]

theorem keyed_append (h : (keyed ws).get? w.id = none) : keyed (ws ++ [w]) = (keyed ws).set w.id w := by
  rw [Fields.set_of_notMem (Fields.get?_eq_none_iff.mp h), keyed, List.map_append]
  rfl

/-- A workflow is switched in its place, if there is one of the id. -/
theorem keyed_toggled? (ws : List Workflow) (id : Text) :
    (toggled? id ws).map keyed =
      ((keyed ws).get? id).map fun w => (keyed ws).set id { w with enabled := !w.enabled } := by
  induction ws with
  | nil => rfl
  | cons u ws ih =>
      rw [toggled?, keyed_cons, Fields.get?]
      by_cases hsame : u.id = id
      · rw [if_pos hsame, if_pos hsame, Option.map_some, Option.map_some, Fields.set, if_pos hsame]
        rfl
      · rw [if_neg hsame, if_neg hsame, Option.map_map]
        have hcons : (keyed ∘ fun rest => u :: rest) = (fun rest => (u.id, u) :: rest) ∘ keyed := rfl
        rw [hcons, ← Option.map_map, ih, Option.map_map]
        refine Option.map_congr ?_
        intro w _
        rw [Fields.set, if_neg hsame]
        rfl

/-! ## Ids of documents -/

/-- The id of a workflow is that of its document. -/
theorem id_of_check {fs : Fields Value} (h : Workflow.check (.object fs) = .accepted w)
    (hid : fs.get? "id" = some (.text id)) : w.id = id := by
  obtain ⟨gs, hgs, hparts⟩ := Workflow.exists_parts h
  cases hgs
  have hget : (Workflow.nodesOf fs).get? "id" = some (.text id) := by
    unfold Workflow.nodesOf
    split
    · rw [Fields.get?_set, if_neg (by decide), hid]
    · exact hid
  have hread := hparts.id
  rw [Check.field, hget] at hread
  cases hread
  rfl

section Documents

variable {payload : Value} {nodes : List Value}

theorem get?_documentOf (payload : Value) (nodes : List Value) {head : Fields Value}
    (h : head.get? "id" = some (.text id)) : ∃ fs : Fields Value,
      documentOf payload nodes head = .object fs ∧ fs.get? "id" = some (.text id) := by
  refine ⟨_, rfl, ?_⟩
  rw [Fields.get?_set, if_neg (by decide), Fields.get?_set, if_neg (by decide), Fields.get?_set,
    if_neg (by decide), h]

/-- An id without blanks around it is taken as it was sent. -/
theorem idSent_of_trimmed (h : payload.field? "id" = some (.text id)) (hid : id ≠ []) (htrim : id.trim = id) :
    idSent payload = .ok id := by
  have hnull : payload.fieldOrNull "id" = .text id := by
    rw [Value.fieldOrNull, h]
    rfl
  have hsome : (Value.text id).truthy = true := by simpa [Value.truthy] using hid
  rw [idSent, hnull, orOther, if_pos hsome]
  exact congrArg Except.ok htrim

/-- A known workflow keeps its id. -/
theorem id_of_headOf {known : Workflow}
    (h : Workflow.check (documentOf payload nodes (headOf payload known)) = .accepted w) :
    w.id = known.id := by
  have hhead : (headOf payload known).get? "id" = some (.text known.id) := by
    rw [headOf, Fields.get?_set, if_neg (by decide), Fields.get?_set, if_neg (by decide), Fields.get?_set,
      if_neg (by decide), Fields.get?_set, if_neg (by decide)]
    rfl
  obtain ⟨fs, hfs, hid⟩ := get?_documentOf payload nodes hhead
  exact id_of_check (hfs ▸ h) hid

/-- A new workflow has the id that it was given. -/
theorem id_of_newHead (h : Workflow.check (documentOf payload nodes (newHead payload id)) = .accepted w) :
    w.id = id := by
  have hhead : (newHead payload id).get? "id" = some (.text id) := rfl
  obtain ⟨fs, hfs, hid⟩ := get?_documentOf payload nodes hhead
  exact id_of_check (hfs ▸ h) hid

end Documents

/-! ## The shelf -/

/-- The workflows under their ids, in order, and the entries that are no workflows. -/
structure Shelf where
  workflows : Fields Workflow
  unread : List Value

namespace Shelf

/-- The shelf of what was read. -/
def of (s : Snapshot) : Shelf := ⟨keyed s.workflows, s.unread.map Prod.snd⟩

/-- The ids of workflows and of other entries. -/
def ids (b : Shelf) : List Text := b.workflows.names ++ b.unread.filterMap idOf?

/-- The workflows in order. -/
def list (b : Shelf) : List Workflow := b.workflows.map Prod.snd

/-- Puts a workflow under its id: into the place of the one that has it, or at the end. -/
def put (b : Shelf) (w : Workflow) : Shelf :=
  ⟨b.workflows.set w.id w, b.unread.filter fun v => idOf? v ≠ some w.id⟩

/-- Takes out what has an id. -/
def without (b : Shelf) (id : Text) : Shelf :=
  ⟨b.workflows.erase id, b.unread.filter fun v => idOf? v ≠ some id⟩

/-- The document of an id that is made of what an editor sent: of the known workflow of the id that was sent,
or of a new one of this id or of a new id. -/
inductive Draft (ws : Fields Workflow) (d : Dice) (seconds : Double) (payload : Value) : Text → Value → Prop
  | changed {nodes : List Value} {id : Text} {known : Workflow} (hnodes : nodesOf payload = .ok nodes)
      (hid : idSent payload = .ok id) (hsent : id ≠ []) (hknown : ws.get? id = some known) :
      Draft ws d seconds payload id (documentOf payload nodes (headOf payload known))
  | added {nodes : List Value} {id : Text} (hnodes : nodesOf payload = .ok nodes)
      (hid : idSent payload = .ok id) (hsent : id ≠ []) (hnew : ws.get? id = none) :
      Draft ws d seconds payload id (documentOf payload nodes (newHead payload id))
  | named {nodes : List Value} {id : Text} {d' : Dice} (hnodes : nodesOf payload = .ok nodes)
      (hid : idSent payload = .ok []) (hdrawn : newId seconds d = .ok (id, d')) (hnew : ws.get? id = none) :
      Draft ws d seconds payload id (documentOf payload nodes (newHead payload id))

/-- What an editor sent makes the workflow. -/
def Makes (ws : Fields Workflow) (d : Dice) (seconds : Double) (payload : Value) (w : Workflow) : Prop :=
  ∃ v, Draft ws d seconds payload w.id v ∧ Workflow.check v = .accepted w

/-- Is a deed possible? Its id is there, or what was sent makes a workflow. -/
def Grants (b : Shelf) (d : Dice) : Deed → Prop
  | .load | .get _ => True
  | .delete id => id ∈ b.ids
  | .toggle id => id ∈ b.workflows.names
  | .accept seconds payload => ∃ w, Makes b.workflows d seconds payload w

/-- What a deed is answered at a shelf, and what it makes of the shelf. -/
inductive Step (b : Shelf) (d : Dice) : Deed → Answer → Shelf → Prop
  | load : Step b d .load (.workflows b.list) b
  | get (id : Text) : Step b d (.get id) (.workflow (b.workflows.get? id)) b
  | delete {id : Text} (h : id ∈ b.ids) : Step b d (.delete id) (.changed (.ok true)) (b.without id)
  | toggle {id : Text} {w : Workflow} (h : b.workflows.get? id = some w) :
      Step b d (.toggle id) (.changed (.ok true))
        { b with workflows := b.workflows.set id { w with enabled := !w.enabled } }
  | accept {seconds : Double} {payload : Value} {w : Workflow} (h : Makes b.workflows d seconds payload w) :
      Step b d (.accept seconds payload) (reportOf w.id (.ok true)) (b.put w)
  | refuse {deed : Deed} {a : Answer} (h : ¬ b.Grants d deed) (ha : a.isFailure = true) : Step b d deed a b

/-- Deeds that are done at a desk are answered one after the other as of a shelf. -/
inductive Run : Shelf → Desk → List Deed → Shelf → Prop
  | nil (b : Shelf) (s : Desk) : Run b s [] b
  | cons {b b' b'' : Shelf} {s : Desk} {deed : Deed} {deeds : List Deed}
      (h : Step b s.dice deed (deed.perform s).1 b') (hrest : Run b' (deed.perform s).2 deeds b'') :
      Run b s (deed :: deeds) b''

variable {b b' : Shelf} {d : Dice}

/-- The ids of a part of the shelf differ if all do. -/
theorem nodup_ids_of_sublist (h : b.ids.Nodup) (hworkflows : b'.workflows.names.Sublist b.workflows.names)
    (hunread : b'.unread.Sublist b.unread) : b'.ids.Nodup :=
  h.sublist (hworkflows.append (hunread.filterMap idOf?))

theorem nodup_without (h : b.ids.Nodup) (id : Text) : (b.without id).ids.Nodup := by
  refine nodup_ids_of_sublist h ?_ List.filter_sublist
  show (b.workflows.erase id).names.Sublist _
  rw [Fields.names_erase]
  exact List.filter_sublist

theorem nodup_put (h : b.ids.Nodup) (w : Workflow) : (b.put w).ids.Nodup := by
  by_cases hknown : w.id ∈ b.workflows.names
  · refine nodup_ids_of_sublist h ?_ List.filter_sublist
    show (b.workflows.set w.id w).names.Sublist _
    rw [Fields.names_set, if_pos hknown]
  · have hnames : (b.workflows.set w.id w).names = b.workflows.names ++ [w.id] := by
      rw [Fields.names_set, if_neg hknown]
    have hrest := nodup_without h w.id
    have hwithout : (b.workflows.erase w.id).names = b.workflows.names := by
      rw [Fields.names_erase, List.filter_eq_self]
      intro name hname
      simpa using fun hsame : name = w.id => hknown (hsame ▸ hname)
    rw [ids, without, hwithout] at hrest
    rw [ids, put, hnames, List.append_assoc, List.singleton_append]
    exact List.nodup_middle.mpr (List.nodup_cons.mpr ⟨by simp [hknown], hrest⟩)

/-- Ids that differ keep doing so. -/
theorem Step.nodup {deed : Deed} {a : Answer} (h : Step b d deed a b') (hb : b.ids.Nodup) : b'.ids.Nodup := by
  cases h with
  | load => exact hb
  | get id => exact hb
  | @delete id _ => exact nodup_without hb id
  | @toggle id w hw =>
      have hknown := Fields.mem_names_of_get? hw
      refine nodup_ids_of_sublist hb ?_ (List.Sublist.refl _)
      show (b.workflows.set id _).names.Sublist _
      rw [Fields.names_set, if_pos hknown]
  | @accept _ _ w _ => exact nodup_put hb w
  | refuse => exact hb

end Shelf

/-! ## What deeds come to -/

open ChatFlow.Catalog.Shelf

theorem list_of (s : Snapshot) : (Shelf.of s).list = s.workflows := by
  rw [list, of, keyed, List.map_map]
  exact List.map_id _

/-- Where all ids differ, an entry that is no workflow has none of the workflows' ids. -/
theorem Shelf.other_id {b : Shelf} (h : b.ids.Nodup) {v : Value} (hv : v ∈ b.unread) {id : Text}
    (hid : id ∈ b.workflows.names) : idOf? v ≠ some id := by
  intro hsame
  exact (List.nodup_append'.mp h).2.2 hid (List.mem_filterMap.mpr ⟨v, hv, hsame⟩)

/-- An entry stays if its id is not deleted, and no workflow has it. -/
theorem stays_iff {deed : Deed} {v : Value} :
    stays deed ws v = true ↔ deed.deletes v = false ∧ ∀ id ∈ (keyed ws).names, idOf? v ≠ some id := by
  rw [stays_eq, names_keyed]
  simp

section Rest

variable {b : Shelf} (h : b.ids.Nodup) (deed : Deed)

include h

/-- Where no ids were added, only the entries go of which the id is deleted. -/
theorem rest_of_known (hknown : ∀ id ∈ (keyed ws).names, id ∈ b.workflows.names) :
    b.unread.filter (stays deed ws) = b.unread.filter fun v => !deed.deletes v := by
  refine List.filter_congr ?_
  intro v hv
  rw [Bool.eq_iff_iff, stays_iff, Bool.not_eq_true']
  refine and_iff_left ?_
  intro id hid
  exact other_id h hv (hknown id hid)

/-- Where a workflow was put under its id, only the entries go that have this id. -/
theorem rest_of_set (hdeed : ∀ v, deed.deletes v = false) (hset : keyed ws = b.workflows.set w.id w) :
    b.unread.filter (stays deed ws) = b.unread.filter fun v => idOf? v ≠ some w.id := by
  have hnames : ∀ id, id ∈ (keyed ws).names ↔ id ∈ b.workflows.names ∨ id = w.id := by
    intro id
    rw [hset, Fields.names_set]
    split
    · next hknown => exact ⟨.inl, fun hid => hid.elim (fun hid => hid) fun hsame => hsame ▸ hknown⟩
    · rw [List.mem_append, List.mem_singleton]
  refine List.filter_congr ?_
  intro v hv
  rw [Bool.eq_iff_iff, stays_iff, decide_eq_true_eq]
  constructor
  · intro hstays
    exact hstays.2 w.id ((hnames w.id).mpr (.inr rfl))
  · intro hne
    refine ⟨hdeed v, ?_⟩
    intro id hid
    rcases (hnames id).mp hid with hknown | rfl
    · exact other_id h hv hknown
    · exact hne

end Rest

/-- Deleting an id comes to nothing only if nothing has it. -/
theorem delete_outcome (ws : List Workflow) (us : List Value) (d : Dice) (id : Text) :
    (id ∈ (Shelf.mk (keyed ws) us).ids ∧
        ((Deed.delete id).outcome ws us d).1 = .write (ws.filter fun w => w.id ≠ id) .changed) ∨
      (id ∉ (Shelf.mk (keyed ws) us).ids ∧
        ((Deed.delete id).outcome ws us d).1 = .answer (.changed (.ok false))) := by
  have hworkflows : (ws.filter fun w => w.id ≠ id).length = ws.length ↔ id ∉ (keyed ws).names := by
    rw [List.length_filter_eq_length_iff, names_keyed]
    simp [List.mem_map]
  have hothers : (us.filter fun v => idOf? v ≠ some id).length = us.length ↔ id ∉ us.filterMap idOf? := by
    rw [List.length_filter_eq_length_iff, List.mem_filterMap]
    simp
  have hids : id ∉ (Shelf.mk (keyed ws) us).ids ↔
      ((ws.filter fun w => w.id ≠ id).length = ws.length &&
        (us.filter fun v => idOf? v ≠ some id).length = us.length) = true := by
    rw [Bool.and_eq_true, decide_eq_true_eq, decide_eq_true_eq, hworkflows, hothers, Shelf.ids,
      List.mem_append, not_or]
  by_cases hmem : id ∈ (Shelf.mk (keyed ws) us).ids
  · refine .inl ⟨hmem, ?_⟩
    have hfound := Bool.eq_false_of_not_eq_true (mt hids.mpr (not_not.mpr hmem))
    simp only [Deed.outcome, hfound]
    rfl
  · refine .inr ⟨hmem, ?_⟩
    simp only [Deed.outcome, hids.mp hmem, if_true]

/-- Switching comes to nothing only if no workflow has the id. -/
theorem toggle_outcome (ws : List Workflow) (us : List Value) (d : Dice) (id : Text) :
    (∃ w ws', (keyed ws).get? id = some w ∧ ((Deed.toggle id).outcome ws us d).1 = .write ws' .changed ∧
        keyed ws' = (keyed ws).set id { w with enabled := !w.enabled }) ∨
      (id ∉ (keyed ws).names ∧ ((Deed.toggle id).outcome ws us d).1 = .answer (.changed (.ok false))) := by
  have hkeyed := keyed_toggled? ws id
  cases htoggled : toggled? id ws with
  | none =>
      rw [htoggled] at hkeyed
      have hnone : (keyed ws).get? id = none := Option.map_eq_none_iff.mp hkeyed.symm
      refine .inr ⟨Fields.get?_eq_none_iff.mp hnone, ?_⟩
      simp only [Deed.outcome, htoggled]
  | some ws' =>
      rw [htoggled] at hkeyed
      obtain ⟨w, hw, hset⟩ := Option.map_eq_some_iff.mp hkeyed.symm
      refine .inl ⟨w, ws', hw, ?_, hset.symm⟩
      simp only [Deed.outcome, htoggled]

section Accept

variable {d : Dice} {seconds : Double} {payload : Value} {v : Value}

theorem Shelf.Draft.unique {id' : Text} {v' : Value} {map : Fields Workflow}
    (h : Draft map d seconds payload id v) (h' : Draft map d seconds payload id' v') : v = v' := by
  rcases h with ⟨hn, hi, hs, hk⟩ | ⟨hn, hi, hs, hk⟩ | ⟨hn, hi, hd, -⟩
  · rcases h' with ⟨hn', hi', -, hk'⟩ | ⟨-, hi', -, hk'⟩ | ⟨-, hi', -, -⟩
    · rw [hn] at hn'
      rw [hi] at hi'
      cases hn'
      cases hi'
      rw [hk] at hk'
      cases hk'
      rfl
    · rw [hi] at hi'
      cases hi'
      rw [hk] at hk'
      cases hk'
    · rw [hi] at hi'
      cases hi'
      exact absurd rfl hs
  · rcases h' with ⟨-, hi', -, hk'⟩ | ⟨hn', hi', -, -⟩ | ⟨-, hi', -, -⟩
    · rw [hi] at hi'
      cases hi'
      rw [hk] at hk'
      cases hk'
    · rw [hn] at hn'
      rw [hi] at hi'
      cases hn'
      cases hi'
      rfl
    · rw [hi] at hi'
      cases hi'
      exact absurd rfl hs
  · rcases h' with ⟨-, hi', hs', -⟩ | ⟨-, hi', hs', -⟩ | ⟨hn', -, hd', -⟩
    · rw [hi] at hi'
      cases hi'
      exact absurd rfl hs'
    · rw [hi] at hi'
      cases hi'
      exact absurd rfl hs'
    · rw [hn] at hn'
      rw [hd] at hd'
      cases hn'
      cases hd'
      rfl

theorem exists_object_of_nodesOf {nodes : List Value} (h : nodesOf payload = .ok nodes) :
    ∃ fs, payload = .object fs := by
  cases payload with
  | object fs => exact ⟨fs, rfl⟩
  | _ => cases h

theorem known?_eq {ws : List Workflow} {id : Text} (h : id ≠ []) : known? id ws = (keyed ws).get? id := by
  have hempty : id.isEmpty = false := by simpa using h
  rw [known?, hempty, get?_keyed]
  rfl

/-- The document is taken in, and the workflow is put under its id. -/
theorem outcome_of_draft (us : List Value) (h : Draft (keyed ws) d seconds payload id v) :
    ∃ put, ((Deed.accept seconds payload).outcome ws us d).1 = .ofDocument v put ∧
      ∀ w, Workflow.check v = .accepted w → w.id = id ∧ keyed (put w) = (keyed ws).set w.id w := by
  obtain @⟨nodes, id, known, hnodes, hid, hsent, hknown⟩ | @⟨nodes, id, hnodes, hid, hsent, hnew⟩ |
    @⟨nodes, id, d', hnodes, hid, hdrawn, hnew⟩ := h
  · obtain ⟨fs, rfl⟩ := exists_object_of_nodesOf hnodes
    have hfound := (known?_eq hsent).trans hknown
    refine ⟨fun w => replaced id w ws, ?_, ?_⟩
    · simp only [Deed.outcome, hnodes, hid, hfound]
    · intro w hw
      have hsame : w.id = id := (id_of_headOf hw).trans (id_of_get?_keyed hknown)
      rw [keyed_replaced hsame hknown, hsame]
      exact ⟨rfl, rfl⟩
  · obtain ⟨fs, rfl⟩ := exists_object_of_nodesOf hnodes
    have hfound := (known?_eq hsent).trans hnew
    have hempty : id.isEmpty = false := by simpa using hsent
    refine ⟨fun w => ws ++ [w], ?_, ?_⟩
    · simp only [Deed.outcome, hnodes, hid, hfound, hempty]
      rfl
    · intro w hw
      have hsame : w.id = id := id_of_newHead hw
      exact ⟨hsame, keyed_append (hsame ▸ hnew)⟩
  · obtain ⟨fs, rfl⟩ := exists_object_of_nodesOf hnodes
    refine ⟨fun w => ws ++ [w], ?_, ?_⟩
    · have hfound : known? [] ws = none := rfl
      simp only [Deed.outcome, hnodes, hid, hfound, List.isEmpty_nil, if_true, hdrawn]
    · intro w hw
      have hsame : w.id = id := id_of_newHead hw
      exact ⟨hsame, keyed_append (hsame ▸ hnew)⟩

/-- What was sent makes a document, unless it has no nodes or an id that cannot be shown. -/
theorem draft_or_refused (ws : List Workflow) (us : List Value) (hfresh : idSent payload = .ok [] →
      ∀ id d', newId seconds d = .ok (id, d') → (keyed ws).get? id = none) :
    (∃ id v, Draft (keyed ws) d seconds payload id v) ∨
      ∃ a, ((Deed.accept seconds payload).outcome ws us d).1 = .answer a ∧ a.isFailure = true := by
  cases hnodes : nodesOf payload with
  | error reason =>
      right
      cases payload with
      | object fs => exact ⟨.report (.ok (.failed reason)), by simp only [Deed.outcome, hnodes], rfl⟩
      | _ => exact ⟨.report (.error .noFields), rfl, rfl⟩
  | ok nodes =>
      obtain ⟨fs, rfl⟩ := exists_object_of_nodesOf hnodes
      cases hid : idSent (.object fs) with
      | error fault =>
          right
          exact ⟨.report (.error fault), by simp only [Deed.outcome, hnodes, hid], rfl⟩
      | ok id =>
          left
          by_cases hempty : id = []
          · subst hempty
            obtain ⟨t, d', hdrawn, -⟩ := exists_newId seconds d
            exact ⟨_, _, .named hnodes hid hdrawn (hfresh hid _ d' hdrawn)⟩
          · cases hknown : (keyed ws).get? id with
            | some known => exact ⟨id, _, .changed hnodes hid hempty hknown⟩
            | none => exact ⟨id, _, .added hnodes hid hempty hknown⟩

/-- Taking in what an editor sent comes to the workflow that is made of it, put under its id; or it fails, as
none is made. -/
theorem accept_outcome (ws : List Workflow) (us : List Value) (hfresh : idSent payload = .ok [] →
      ∀ id d', newId seconds d = .ok (id, d') → (keyed ws).get? id = none) :
    (∃ w ws', Makes (keyed ws) d seconds payload w ∧
        ((Deed.accept seconds payload).outcome ws us d).1 = .write ws' (reportOf w.id) ∧
        keyed ws' = (keyed ws).set w.id w) ∨
      ∃ a, ((Deed.accept seconds payload).outcome ws us d).1 = .answer a ∧ a.isFailure = true ∧
        ¬ ∃ w, Makes (keyed ws) d seconds payload w := by
  rcases draft_or_refused ws us hfresh with ⟨id, v, hdraft⟩ | ⟨a, ha, hfailure⟩
  · obtain ⟨put, houtcome, hput⟩ := outcome_of_draft us hdraft
    rw [Outcome.ofDocument] at houtcome
    cases hcheck : Workflow.check v with
    | accepted w =>
        rw [hcheck] at houtcome
        obtain ⟨rfl, hkeyed⟩ := hput w hcheck
        exact .inl ⟨w, put w, ⟨v, hdraft, hcheck⟩, houtcome, hkeyed⟩
    | refused count =>
        rw [hcheck] at houtcome
        refine .inr ⟨_, houtcome, rfl, ?_⟩
        rintro ⟨w, v', hdraft', hw⟩
        rw [← hdraft.unique hdraft', hcheck] at hw
        cases hw
  · refine .inr ⟨a, ha, hfailure, ?_⟩
    rintro ⟨w, v, hdraft, hw⟩
    obtain ⟨put, houtcome, -⟩ := outcome_of_draft us hdraft
    rw [ha, Outcome.ofDocument, hw] at houtcome
    cases houtcome

end Accept

/-! ## One deed -/

/-- Is a new id drawn that a workflow has already? -/
def Deed.clashes (deed : Deed) (s : Desk) : Bool :=
  match deed with
  | .accept seconds payload =>
    match idSent payload, newId seconds s.dice with
    | .ok [], .ok (id, _) => (keyed s.catalog.current.workflows).has id
    | _, _ => false
  | _ => false

section Perform

variable {s : Desk} {deed : Deed}

/-- A deed that comes to an answer leaves the shelf as it is. -/
theorem step_of_answer {a : Answer} (h : (deed.comesTo s).1 = .answer a)
    (hstep : Step (.of s.catalog.current) s.dice deed a (.of s.catalog.current)) :
    Step (.of s.catalog.current) s.dice deed (deed.perform s).1
      (.of (deed.perform s).2.catalog.current) := by
  obtain ⟨c, hperform, hsame⟩ := Deed.perform_of_answer h
  rw [hperform, hsame.current_eq]
  exact hstep

variable (hfree : s.catalog.file.blocked = false) (hanswer : (deed.perform s).1.isUnencodable = false)

include hfree hanswer

/-- A deed that comes to a writing leaves the shelf of what was written. -/
theorem step_of_write {ws : List Workflow} {reply : Except Fault Bool → Answer}
    (h : (deed.comesTo s).1 = .write ws reply)
    (hstep : Step (.of s.catalog.current) s.dice deed (reply (.ok true))
      ⟨keyed ws, (Shelf.of s.catalog.current).unread.filter (stays deed ws)⟩) :
    Step (.of s.catalog.current) s.dice deed (deed.perform s).1
      (.of (deed.perform s).2.catalog.current) := by
  have hwf := Deed.isWellFormed_of_answer hfree h hanswer
  have hrest : Shelf.of (s.catalog.written ws (s.catalog.rest deed ws)).current =
      ⟨keyed ws, (Shelf.of s.catalog.current).unread.filter (stays deed ws)⟩ := by
    rw [current_written, Shelf.of, map_rest]
    rfl
  rw [Deed.perform_of_write hfree h hwf, hrest]
  exact hstep

/-- A deed is answered as of the shelf, and leaves the shelf that it says. -/
theorem step_perform (hids : (Shelf.of s.catalog.current).ids.Nodup) (hfresh : deed.clashes s = false) :
    Step (.of s.catalog.current) s.dice deed (deed.perform s).1
      (.of (deed.perform s).2.catalog.current) := by
  cases deed with
  | load =>
      refine step_of_answer rfl ?_
      rw [← list_of]
      exact .load
  | get id =>
      refine step_of_answer rfl ?_
      rw [← get?_keyed]
      exact .get id
  | delete id =>
      rcases delete_outcome s.catalog.current.workflows (s.catalog.current.unread.map Prod.snd) s.dice id with
          ⟨hmem, hwrite⟩ | ⟨hnone, ha⟩
      · refine step_of_write hfree hanswer hwrite ?_
        have hknown : ∀ other ∈ (keyed (s.catalog.current.workflows.filter fun w => w.id ≠ id)).names,
            other ∈ (Shelf.of s.catalog.current).workflows.names := by
          intro other hother
          rw [keyed_filter, Fields.names_erase] at hother
          exact (List.mem_filter.mp hother).1
        have hrest := rest_of_known hids (.delete id) hknown
        simp only [Deed.deletes, ← decide_not] at hrest
        rw [keyed_filter, hrest]
        exact .delete hmem
      · exact step_of_answer ha (.refuse hnone rfl)
  | toggle id =>
      rcases toggle_outcome s.catalog.current.workflows (s.catalog.current.unread.map Prod.snd) s.dice id with
          ⟨w, ws, hw, hwrite, hset⟩ | ⟨hnone, ha⟩
      · refine step_of_write hfree hanswer hwrite ?_
        have hknown : ∀ other ∈ (keyed ws).names, other ∈ (Shelf.of s.catalog.current).workflows.names := by
          intro other hother
          rw [hset, Fields.names_set, if_pos (Fields.mem_names_of_get? hw)] at hother
          exact hother
        have hrest := rest_of_known hids (.toggle id) hknown
        have hall : (Shelf.of s.catalog.current).unread.filter (fun v => !(Deed.toggle id).deletes v) =
            (Shelf.of s.catalog.current).unread := List.filter_eq_self.mpr fun _ _ => rfl
        rw [hrest, hall, hset]
        exact .toggle hw
      · exact step_of_answer ha (.refuse hnone rfl)
  | accept seconds payload =>
      have hnew : idSent payload = .ok [] → ∀ id d', newId seconds s.dice = .ok (id, d') →
          (keyed s.catalog.current.workflows).get? id = none := by
        intro hid id d' hdrawn
        simp only [Deed.clashes, hid, hdrawn] at hfresh
        exact Option.isSome_eq_false_iff.mp hfresh |> Option.isNone_iff_eq_none.mp
      rcases accept_outcome s.catalog.current.workflows (s.catalog.current.unread.map Prod.snd) hnew with
          ⟨w, ws, hmakes, hwrite, hset⟩ | ⟨a, ha, hfailure, hnone⟩
      · refine step_of_write hfree hanswer hwrite ?_
        have hrest := rest_of_set hids (.accept seconds payload) (fun _ => rfl) hset
        rw [hrest, hset]
        exact .accept hmakes
      · exact step_of_answer ha (.refuse hnone hfailure)

/-- The file can still be written after the deed. -/
theorem free_perform : (deed.perform s).2.catalog.file.blocked = false := by
  rcases deed.perform_cases hfree hanswer with ⟨a, c, -, hperform, hsame⟩ | ⟨ws, reply, -, -, hperform⟩
  · rw [hperform, hsame.file_eq]
    exact hfree
  · rw [hperform]
    rfl

end Perform

/-! ## Runs of deeds -/

/-- A run of deeds is answered step by step as of the shelf, and leaves the shelf that the steps say. -/
theorem run_perform {s : Desk} (hfree : s.catalog.file.blocked = false)
    (hids : (Shelf.of s.catalog.current).ids.Nodup) {deeds : List Deed}
    (hanswers : ∀ a ∈ answers (deeds.map .deed) s, Encodes a) (hfresh : along Deed.clashes deeds s = false) :
    Run (.of s.catalog.current) s deeds (.of (after (deeds.map .deed) s).catalog.current) ∧
      (Shelf.of (after (deeds.map .deed) s).catalog.current).ids.Nodup := by
  induction deeds generalizing s with
  | nil => exact ⟨.nil _ s, hids⟩
  | cons deed deeds ih =>
      obtain ⟨hanswer, hanswers⟩ := List.forall_mem_cons.mp hanswers
      obtain ⟨hfirst, hfresh⟩ := Bool.or_eq_false_iff.mp hfresh
      have hanswer := hanswer (deed.perform s).1 rfl
      have hstep := step_perform hfree hanswer hids hfirst
      obtain ⟨hrun, hnodup⟩ := ih (free_perform hfree hanswer) (hstep.nodup hids) hanswers hfresh
      exact ⟨.cons hstep hrun, hnodup⟩

/-- Where the ids of workflows and other entries differ, and new ids are not in use, every run of deeds of
which all writings succeed is answered as of an ordered map, and leaves the map that it says, with ids that
differ. Without numbers that are not finite, a catalog that is opened behind it reads this map. -/
theorem run_shelf {f : File} (hfree : f.blocked = false) (hids : (Shelf.of (.ofFile f)).ids.Nodup) (d : Dice)
    {deeds : List Deed} (hanswers : ∀ a ∈ answers (deeds.map .deed) ⟨ofFile f, d⟩, Encodes a)
    (hfresh : along Deed.clashes deeds ⟨ofFile f, d⟩ = false) :
    let s := after (deeds.map .deed) ⟨ofFile f, d⟩
    let b := Shelf.of s.catalog.current
    Run (.of (.ofFile f)) ⟨ofFile f, d⟩ deeds b ∧ b.ids.Nodup ∧
      (Plain f → (∀ deed ∈ deeds, deed.Sent fun v => v.IsDocument ∧ v.settled = v) →
        (ofFile s.catalog.file).load.1 = b.list ∧
          ∀ id, ((ofFile s.catalog.file).get id).1 = b.workflows.get? id) := by
  intro s b
  obtain ⟨hrun, hnodup⟩ := run_perform (s := ⟨ofFile f, d⟩) hfree hids hanswers hfresh
  refine ⟨hrun, hnodup, ?_⟩
  intro hplain hsent
  have hstart : Agrees (ofFile f) := agrees_of_current hfree rfl hplain (timely_ofFile f)
  have hturns : ∀ t ∈ deeds.map Turn.deed, t.Plain := by
    intro t ht
    obtain ⟨deed, hdeed, rfl⟩ := List.mem_map.mp ht
    exact hsent deed hdeed
  have hagrees : Agrees s.catalog := hstart.after (s := ⟨ofFile f, d⟩) hturns hanswers
  -- what is kept at the end is what stands in the file
  have hsame : (ofFile s.catalog.file).current.workflows = s.catalog.current.workflows :=
    (workflows_ofFile s.catalog.file).trans hagrees.read.symm
  constructor
  · show (ofFile s.catalog.file).current.workflows = _
    rw [hsame, list_of]
  · intro id
    show (ofFile s.catalog.file).current.workflows.find? _ = (keyed s.catalog.current.workflows).get? id
    rw [hsame, get?_keyed]

/-- What an editor sends for a new workflow that has no id yet. -/
def unnumbered : Value :=
  .object [("nodes", .list [.object [("id", .text "t"), ("type", .text "trigger")]])]

/-- A workflow is disabled, one is added, the entry that is no workflow is deleted, and then once more. -/
def shelfDeeds : List Deed := [.toggle "b", .accept 0 unnumbered, .delete "c", .delete "c"]

theorem run_shelf_of_sample :
    let s := after (shelfDeeds.map .deed) ⟨ofFile sample, .ofNumbers [7, 300]⟩
    let b := Shelf.of s.catalog.current
    (sample.blocked = false ∧ (Shelf.of (.ofFile sample)).ids.Nodup ∧
        (∀ a ∈ answers (shelfDeeds.map .deed) ⟨ofFile sample, .ofNumbers [7, 300]⟩, Encodes a) ∧
        along Deed.clashes shelfDeeds ⟨ofFile sample, .ofNumbers [7, 300]⟩ = false) ∧
      Run (.of (.ofFile sample)) ⟨ofFile sample, .ofNumbers [7, 300]⟩ shelfDeeds b ∧ b.ids.Nodup ∧
      (ofFile s.catalog.file).load.1 = b.list ∧
        ∀ id, ((ofFile s.catalog.file).get id).1 = b.workflows.get? id := by
  have hplain : Plain sample := by decide +kernel
  have hdeeds : (Shelf.of (.ofFile sample)).ids.Nodup ∧
      (∀ a ∈ answers (shelfDeeds.map .deed) ⟨ofFile sample, .ofNumbers [7, 300]⟩, Encodes a) ∧
      along Deed.clashes shelfDeeds ⟨ofFile sample, .ofNumbers [7, 300]⟩ = false := by
    decide +kernel
  obtain ⟨hids, hanswers, hfresh⟩ := hdeeds
  have hsent : ∀ deed ∈ shelfDeeds, deed.Sent fun v => v.IsDocument ∧ v.settled = v := by
    simp only [shelfDeeds, List.mem_cons, List.not_mem_nil, or_false]
    rintro deed (rfl | rfl | rfl | rfl)
    · exact trivial
    · exact ⟨Json.isDocument_of_read? (t := Json.text .line unnumbered) (by decide +kernel),
        by decide +kernel⟩
    · exact trivial
    · exact trivial
  obtain ⟨hrun, hnodup, hcold⟩ := run_shelf rfl hids (.ofNumbers [7, 300]) hanswers hfresh
  exact ⟨⟨rfl, hids, hanswers, hfresh⟩, hrun, hnodup, hcold hplain hsent⟩

/-- A workflow in which an infinite number stands in for a value that is not stored. -/
def boundless (id : Text) : Value :=
  .object [("id", .text id), ("nodes", .list [.object [("id", .text "s"), ("type", .text "storage"),
    ("data", .object [("default_value", .float (.infinite false))])]])]

/-- Another workflow is disabled, and whoever opens the file reads a workflow with another value in it. -/
theorem value_lost_behind_switch :
    let f := fileOf [boundless "a", plain "b"]
    let s := (Deed.toggle "b").perform ⟨ofFile f, .ofNumbers []⟩
    ((Shelf.of (.ofFile f)).ids.Nodup ∧ s.1.isFailure = false) ∧
      (s.2.catalog.get "a").1.map Workflow.toValue = ((ofFile f).get "a").1.map Workflow.toValue ∧
      ((ofFile s.2.catalog.file).get "a").1.map Workflow.toValue ≠
        ((ofFile f).get "a").1.map Workflow.toValue := by
  decide +kernel

end Catalog

end ChatFlow
