import ChatFlow.Proofs.Catalog.Reached
import ChatFlow.Proofs.Text.Cuts
import ChatFlow.Proofs.Workflow.Encoding

/-!
# What is reported of a workflow that is taken in

Whatever document without surrogates an editor sends, it is reported what came of it: that a workflow was saved, and
under which id, or for which reason none was. All that the catalog holds has to be without surrogates too, as it is
written into the same file.

* `Value.IsDocument.exists_plain`: every document can be shown.
* `Catalog.isEncodable_documentOf`: edits without surrogates.
* `Catalog.IsSaveReport`: what can be reported.
* `Catalog.accept_report`: this is what is reported.
-/

namespace ChatFlow

open Value (fieldsEncodable)

/-! ## Documents that are shown -/

namespace Value

theorem itemsHaveLongInteger_eq_false {vs : List Value} (h : ∀ v ∈ vs, v.hasLongInteger = false) :
    itemsHaveLongInteger vs = false := by
  induction vs with
  | nil => rfl
  | cons v vs ih =>
      obtain ⟨hfirst, hrest⟩ := List.forall_mem_cons.mp h
      rw [itemsHaveLongInteger, hfirst, ih hrest]
      rfl

theorem fieldsHaveLongInteger_eq_false {fs : List (Text × Value)} (h : ∀ f ∈ fs, f.2.hasLongInteger = false) :
    fieldsHaveLongInteger fs = false := by
  induction fs with
  | nil => rfl
  | cons f fs ih =>
      obtain ⟨hfirst, hrest⟩ := List.forall_mem_cons.mp h
      rw [fieldsHaveLongInteger, hfirst, ih hrest]
      rfl

/-- No integer of a document is too long. -/
theorem IsDocument.hasLongInteger_eq_false {v : Value} (h : v.IsDocument) : v.hasLongInteger = false := by
  induction h with
  | null => rfl
  | bool b => rfl
  | float x => rfl
  | text t => rfl
  | int hn => exact hn
  | list _ ih => exact itemsHaveLongInteger_eq_false ih
  | object _ _ ih => exact fieldsHaveLongInteger_eq_false ih

/-- Every document can be shown. -/
theorem IsDocument.exists_plain {v : Value} (h : v.IsDocument) : ∃ t, v.plain = .ok t := by
  unfold plain
  split
  · exact ⟨_, rfl⟩
  · rw [literal, h.hasLongInteger_eq_false]
    exact ⟨_, rfl⟩

end Value

theorem Text.isWellFormed_trim {t : Text} (h : t.isWellFormed = true) : t.trim.isWellFormed = true :=
  isWellFormed_of_subset t.trim_subset h

/-! ## New ids -/

namespace Base36

theorem isWellFormed_digits : digits.isWellFormed = true := by decide

theorem isWellFormed_digit (n : Nat) : Text.isWellFormed [digit n] = true := by
  have hdigits := List.all_eq_true.mp isWellFormed_digits
  unfold digit
  cases hget : digits[n % 36]? with
  | none => rfl
  | some c =>
      have hc := hdigits c (List.mem_of_getElem? hget)
      rw [Option.getD_some, Text.isWellFormed, List.all_cons, hc]
      rfl

theorem isWellFormed_ofNatAux (n : Nat) (rest : Text) (h : rest.isWellFormed = true) :
    (ofNatAux n rest).isWellFormed = true := by
  fun_induction ofNatAux n rest with
  | case1 => exact h
  | case2 n rest hn ih =>
      apply ih
      rw [← List.singleton_append, Text.isWellFormed_append, isWellFormed_digit, h]
      rfl

theorem isWellFormed_ofInt (n : Int) : (ofInt n).isWellFormed = true := by
  rw [ofInt, ofNat]
  split
  · exact isWellFormed_digit 0
  · exact isWellFormed_ofNatAux _ _ rfl

end Base36

namespace Catalog

/-- A new id can always be drawn, and has no surrogates. -/
theorem exists_newId_isWellFormed (seconds : Double) (d : Dice) :
    ∃ id d', newId seconds d = .ok (id, d') ∧ id.isWellFormed = true := by
  obtain ⟨t, d', hnew, -, hdigits⟩ := exists_newId seconds d
  refine ⟨_, d', hnew, ?_⟩
  have hsuffix := Text.isWellFormed_of_subset hdigits Base36.isWellFormed_digits
  rw [Text.isWellFormed_append, Text.isWellFormed_append, Base36.isWellFormed_ofInt, hsuffix, Text.isWellFormed_ofString]
  rfl

/-! ## Edits without surrogates -/

theorem fieldsEncodable_set {fs : Fields Value} (hfs : fieldsEncodable fs = true) (name : Text) {v : Value}
    (hname : name.isWellFormed = true) (hv : v.isEncodable = true) : fieldsEncodable (fs.set name v) = true := by
  apply Value.fieldsEncodable_iff.mpr
  intro f hf
  rcases Fields.mem_set hf with hold | rfl
  · exact Value.fieldsEncodable_iff.mp hfs f hold
  · exact ⟨hname, hv⟩

section Edits

variable {payload : Value} (hpayload : payload.isEncodable = true)

theorem isEncodable_orOther {v : Value} (hv : v.isEncodable = true) (other : Value) (hother : other.isEncodable = true) :
    (orOther v other).isEncodable = true := orOther_of (Q := fun v => v.isEncodable = true) hv hother

include hpayload

theorem isEncodable_getD (name : Text) (other : Value) (hother : other.isEncodable = true) :
    ((payload.field? name).getD other).isEncodable = true := by
  cases hfield : payload.field? name with
  | none => exact hother
  | some v =>
      cases payload with
      | object fs => exact Value.isEncodable_of_get? hpayload hfield
      | _ => cases hfield

theorem isEncodable_sent (name : Text) : (payload.fieldOrNull name).isEncodable = true :=
  isEncodable_getD hpayload name .null rfl

theorem isEncodable_nodesOf {nodes : List Value} (h : nodesOf payload = .ok nodes) :
    (Value.list nodes).isEncodable = true := by
  have hnodes := isEncodable_sent hpayload "nodes"
  rw [nodesOf] at h
  split at h
  · next n ns hlist =>
      cases h
      rw [hlist] at hnodes
      exact hnodes
  · next n ns hobject =>
      cases h
      rw [hobject] at hnodes
      apply Value.isEncodable_list.mpr
      intro v hv
      obtain ⟨f, hf, rfl⟩ := List.mem_map.mp hv
      exact (Value.isEncodable_object.mp hnodes f hf).2
  · cases h

theorem isEncodable_documentOf {nodes : List Value} (hnodes : (Value.list nodes).isEncodable = true)
    {head : Fields Value} (hhead : fieldsEncodable head = true) :
    (documentOf payload nodes head).isEncodable = true := by
  have hstop : fieldsEncodable (head.set "stop_propagation"
      (.bool (payload.fieldOrNull "stop_propagation").truthy)) = true := fieldsEncodable_set hhead _ rfl rfl
  have hgraph := fieldsEncodable_set hstop "nodes" rfl hnodes
  exact fieldsEncodable_set hgraph _ rfl (isEncodable_orOther (isEncodable_sent hpayload "connections") _ rfl)

theorem isEncodable_headOf {known : Workflow} (hknown : known.toValue.isEncodable = true) :
    fieldsEncodable (headOf payload known) = true := by
  have hfields := Value.isEncodable_object.mp hknown
  have hname : known.name.isWellFormed = true := (hfields ("name", .text known.name) (by simp [Workflow.toFields])).2
  have hkind : known.triggerKind.isWellFormed = true :=
    (hfields ("trigger_type", .text known.triggerKind) (by simp [Workflow.toFields])).2
  have hcontent : known.triggerContent.isWellFormed = true :=
    (hfields ("trigger_content", .text known.triggerContent) (by simp [Workflow.toFields])).2
  have hsent := isEncodable_sent hpayload
  have hnamed := fieldsEncodable_set hknown "name" rfl
    (isEncodable_orOther (hsent "name") (.text known.name) hname)
  have htyped := fieldsEncodable_set hnamed "trigger_type" rfl
    (isEncodable_orOther (hsent "trigger_type") (.text known.triggerKind) hkind)
  have hfilled := fieldsEncodable_set htyped "trigger_content" rfl
    (isEncodable_getD hpayload "trigger_content" (.text known.triggerContent) hcontent)
  exact fieldsEncodable_set hfilled "enabled" rfl (isEncodable_getD hpayload "enabled" (.bool known.enabled) rfl)

theorem isEncodable_newHead {id : Text} (hid : id.isWellFormed = true) :
    fieldsEncodable (newHead payload id) = true := by
  have hsent := isEncodable_sent hpayload
  have hname := isEncodable_orOther (hsent "name") (.text Workflow.unnamed) rfl
  have hkind := isEncodable_orOther (hsent "trigger_type") (.text "exact") rfl
  have hcontent := isEncodable_orOther (hsent "trigger_content") (.text []) rfl
  apply Value.fieldsEncodable_iff.mpr
  simp only [newHead, List.mem_cons, List.not_mem_nil, or_false]
  rintro f (rfl | rfl | rfl | rfl | rfl)
  · exact ⟨rfl, hid⟩
  · exact ⟨rfl, hname⟩
  · exact ⟨rfl, hkind⟩
  · exact ⟨rfl, hcontent⟩
  · exact ⟨rfl, rfl⟩

/-- The id that an editor sends can be read, and has no surrogates. -/
theorem exists_idSent (hdocument : payload.IsDocument) : ∃ id, idSent payload = .ok id ∧ id.isWellFormed = true := by
  have hid : (orOther (payload.fieldOrNull "id") (.text [])).IsDocument :=
    orOther_of (Value.layered_isDocument.fieldOrNull hdocument "id") (.text [])
  obtain ⟨t, ht⟩ := hid.exists_plain
  refine ⟨t.trim, ?_, ?_⟩
  · rw [idSent, ht]
    rfl
  · have hencodable := isEncodable_orOther (isEncodable_sent hpayload "id") (.text []) rfl
    exact Text.isWellFormed_trim (Value.isWellFormed_plain hid hencodable ht)

end Edits

/-! ## Reports -/

/-- Nothing that the catalog holds has surrogates, so it can be written. -/
structure IsEncodable (c : Catalog) : Prop where
  workflows : ∀ w ∈ c.current.workflows, w.toValue.isEncodable = true
  unread : ∀ e ∈ c.current.unread, e.2.isEncodable = true

/-- What is reported of a workflow that an editor sends: it was saved under an id, or there is a reason that it was
not. -/
def IsSaveReport (r : Report) : Prop :=
  (∃ id : Text, id.isWellFormed = true ∧ r = .done "已保存" [("id", .text id)]) ∨
    ∃ reason : Text, reason.isWellFormed = true ∧ reason ≠ [] ∧ r = .failed reason

/-- What a workflow that was sent may come to: a reason is reported, or it is written among the others. -/
def ComesToReport (ws : List Workflow) : Outcome → Prop
  | .answer a => ∃ reason : Text, reason.isWellFormed = true ∧ reason ≠ [] ∧ a = .report (.ok (.failed reason))
  | .write us reply => ∃ w : Workflow, w.toValue.isEncodable = true ∧ reply = reportOf w.id ∧ ∀ u ∈ us, u = w ∨ u ∈ ws

theorem comesToReport_ofDocument {ws : List Workflow} {document : Value} {put : Workflow → List Workflow}
    (hdocument : document.IsDocument) (hencodable : document.isEncodable = true)
    (hput : ∀ w, ∀ u ∈ put w, u = w ∨ u ∈ ws) : ComesToReport ws (.ofDocument document put) := by
  unfold Outcome.ofDocument
  split
  · next count _ =>
      refine ⟨refusal count, ?_, ?_, rfl⟩
      · simp [refusal]
      · rw [refusal, List.append_assoc]
        exact List.append_ne_nil_of_left_ne_nil (by decide) _
  · next w hcheck =>
      exact ⟨w, Workflow.isEncodable_toValue hcheck hdocument hencodable, rfl, hput w⟩

/-- A document without surrogates comes to a report. -/
theorem comesToReport_accept (seconds : Double) {fs : Fields Value} (hdocument : (Value.object fs).IsDocument)
    (hencodable : (Value.object fs).isEncodable = true) {ws : List Workflow} (hwritable : ∀ w ∈ ws, w.Writable)
    (hall : ∀ w ∈ ws, w.toValue.isEncodable = true) (unread : List Value) (d : Dice) :
    ComesToReport ws ((Deed.accept seconds (.object fs)).outcome ws unread d).1 := by
  simp only [Deed.outcome]
  cases hnodes : nodesOf (.object fs) with
  | error reason =>
      have hreason : reason = "节点列表为空" ∨ reason = "缺少节点数据" := by
        rw [nodesOf] at hnodes
        split at hnodes
        · cases hnodes
        · cases hnodes
        · next v =>
            rw [← Except.error.inj hnodes]
            split
            · exact .inl rfl
            · exact .inr rfl
      rcases hreason with rfl | rfl
      · exact ⟨_, rfl, by decide, rfl⟩
      · exact ⟨_, rfl, by decide, rfl⟩
  | ok nodes =>
      have hparts := layered_nodesOf Value.layered_isDocument hdocument hnodes
      have hlist := isEncodable_nodesOf hencodable hnodes
      obtain ⟨id, hid, hwellFormed⟩ := exists_idSent hencodable hdocument
      rw [hid]
      dsimp only
      cases hknown : known? id ws with
      | some known =>
          have hmem := (known?_eq_some hknown).1
          have hhead := layered_headOf Value.layered_isDocument hdocument (hwritable known hmem).isDocument
          apply comesToReport_ofDocument
          · exact layered_documentOf Value.layered_isDocument hdocument hparts hhead
          · exact isEncodable_documentOf hencodable hlist (isEncodable_headOf hencodable (hall known hmem))
          · exact fun w u hu => Deed.mem_replaced hu
      | none =>
          -- an id that is there has no surrogates, be it new or sent
          have hdrawn : ∃ id' d', (if id.isEmpty then newId seconds d else .ok (id, d)) = .ok (id', d') ∧
              id'.isWellFormed = true := by
            split
            · exact exists_newId_isWellFormed seconds d
            · exact ⟨id, d, rfl, hwellFormed⟩
          obtain ⟨id', d', hdrawn, hnew⟩ := hdrawn
          dsimp only
          rw [hdrawn]
          apply comesToReport_ofDocument
          · exact layered_documentOf Value.layered_isDocument hdocument hparts
              (layered_newHead Value.layered_isDocument hdocument id')
          · exact isEncodable_documentOf hencodable hlist (isEncodable_newHead hencodable hnew)
          · intro w u hu
            rcases List.mem_append.mp hu with hold | hadded
            · exact .inr hold
            · exact .inl (List.mem_singleton.mp hadded)

/-- Of every document without surrogates that an editor sends it is reported what came of it. -/
theorem accept_report {seconds : Double} {fs : Fields Value} {s : Desk} (hdocument : (Value.object fs).IsDocument)
    (hencodable : (Value.object fs).isEncodable = true) (hsound : Sound s.catalog) (hall : IsEncodable s.catalog) :
    ∃ r, ((Deed.accept seconds (.object fs)).perform s).1 = .report (.ok r) ∧ IsSaveReport r := by
  have hcomes := comesToReport_accept seconds hdocument hencodable hsound.current.workflows hall.workflows
    (s.catalog.current.unread.map Prod.snd) s.dice
  change ComesToReport _ ((Deed.accept seconds (.object fs)).comesTo s).1 at hcomes
  cases houtcome : ((Deed.accept seconds (.object fs)).comesTo s).1 with
  | answer a =>
      rw [houtcome] at hcomes
      obtain ⟨reason, hwellFormed, hfilled, rfl⟩ := hcomes
      obtain ⟨c, hperform, -⟩ := Deed.perform_of_answer houtcome
      exact ⟨_, congrArg Prod.fst hperform, .inr ⟨reason, hwellFormed, hfilled, rfl⟩⟩
  | write ws reply =>
      rw [houtcome] at hcomes
      obtain ⟨w, hw, rfl, hmem⟩ := hcomes
      rw [Deed.perform_write houtcome]
      by_cases hblocked : s.catalog.file.blocked = true
      · rw [save_cleared_blocked hblocked]
        exact ⟨_, rfl, .inr ⟨unsaved, rfl, by decide, rfl⟩⟩
      · -- what is written has no surrogates: neither the workflows nor the other entries
        have hfree : s.catalog.file.blocked = false := Bool.eq_false_of_not_eq_true hblocked
        have hentries : (Value.list (entriesOf ws (s.catalog.rest (.accept seconds (.object fs)) ws))).isEncodable =
            true := by
          apply Value.isEncodable_list.mpr
          intro v hv
          rcases List.mem_append.mp ((place_perm _ _).mem_iff.mp hv) with hworkflow | hother
          · obtain ⟨u, hu, rfl⟩ := List.mem_map.mp hworkflow
            rcases hmem u hu with rfl | hold
            · exact hw
            · exact hall.workflows u hold
          · obtain ⟨e, he, rfl⟩ := List.mem_map.mp hother
            exact hall.unread e (List.mem_filter.mp he).1
        have htext : (textOf ws (s.catalog.rest (.accept seconds (.object fs)) ws)).isWellFormed = true :=
          (Json.isWellFormed_textAt rfl 0 _).trans hentries
        have hid : w.id.isWellFormed = true :=
          (Value.isEncodable_object.mp hw ("id", .text w.id) (by simp [Workflow.toFields])).2
        rw [save_cleared hfree, if_pos htext]
        exact ⟨_, rfl, .inl ⟨w.id, hid, rfl⟩⟩

end Catalog

end ChatFlow
