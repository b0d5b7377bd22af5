import ChatFlow.Catalog.Edit
import ChatFlow.Proofs.Workflow.Settled

/-!
# Documents that edits make

What an editor sent becomes a document part by part: parts of it are taken over, and some texts, truth values
and lists are added. So the document is of the same kind as what was sent, and as the workflow that is
changed.

* `Value.Layered`: kinds of values that taking apart and putting together keeps.
* `Catalog.layered_documentOf`: documents of edits are of the kind of what was sent.
* `Catalog.Lasts`: kinds of workflows that reading, writing and switching keeps.
* `Catalog.lasts_writable`, `Catalog.lasts_settled`: the two kinds of workflows that are written as documents.
-/

namespace ChatFlow

/-! ## Kinds of values -/

namespace Value

/-- The parts of a value of the kind are of the kind, and so is what is made of such values. -/
structure Layered (Q : Value → Prop) : Prop where
  null : Q .null
  bool : ∀ b, Q (.bool b)
  text : ∀ t, Q (.text t)
  list : ∀ {vs}, (∀ v ∈ vs, Q v) → Q (.list vs)
  item : ∀ {vs}, Q (.list vs) → ∀ v ∈ vs, Q v
  empty : Q (.object [])
  set : ∀ {fs : Fields Value} {v}, Q (.object fs) → Q v → ∀ name, Q (.object (fs.set name v))
  field : ∀ {fs}, Q (.object fs) → ∀ f ∈ fs, Q f.2

theorem layered_isDocument : Layered IsDocument where
  null := .null
  bool := .bool
  text := .text
  list := .list
  item := IsDocument.item
  empty := .object List.nodup_nil (by simp)
  set := by
    intro fs v h hv name
    refine .object (Fields.nodup_set h.names_nodup name v) ?_
    intro f hf
    rcases Fields.mem_set hf with hold | hnew
    · exact h.field f hold
    · rw [hnew]
      exact hv
  field := IsDocument.field

theorem layered_settled : Layered fun v => v.settled = v where
  null := rfl
  bool := fun _ => rfl
  text := fun _ => rfl
  list := fun h => congrArg Value.list (settledItems_eq_self.mpr h)
  item := settled_list
  empty := rfl
  set := by
    intro fs v h hv name
    refine congrArg Value.object (settledFields_eq_self.mpr ?_)
    intro f hf
    rcases Fields.mem_set hf with hold | hnew
    · exact settled_object h f hold
    · rw [hnew]
      exact hv
  field := settled_object

theorem Layered.and {Q R : Value → Prop} (hQ : Layered Q) (hR : Layered R) : Layered fun v => Q v ∧ R v where
  null := ⟨hQ.null, hR.null⟩
  bool := fun b => ⟨hQ.bool b, hR.bool b⟩
  text := fun t => ⟨hQ.text t, hR.text t⟩
  list := fun h => ⟨hQ.list fun v hv => (h v hv).1, hR.list fun v hv => (h v hv).2⟩
  item := fun h v hv => ⟨hQ.item h.1 v hv, hR.item h.2 v hv⟩
  empty := ⟨hQ.empty, hR.empty⟩
  set := fun h hv name => ⟨hQ.set h.1 hv.1 name, hR.set h.2 hv.2 name⟩
  field := fun h f hf => ⟨hQ.field h.1 f hf, hR.field h.2 f hf⟩

section Parts

variable {Q : Value → Prop} (hQ : Layered Q) {v : Value}

include hQ

theorem Layered.field? (hv : Q v) {name : Text} {u : Value} (h : v.field? name = some u) : Q u := by
  cases v with
  | object fs => exact hQ.field hv _ (Fields.mem_of_get? h)
  | _ => cases h

theorem Layered.fieldOrNull (hv : Q v) (name : Text) : Q (v.fieldOrNull name) := by
  rw [Value.fieldOrNull]
  cases h : v.field? name with
  | none => exact hQ.null
  | some u => exact hQ.field? hv h

end Parts

end Value

/-! ## Documents of edits -/

namespace Catalog

section Documents

variable {Q : Value → Prop} (hQ : Value.Layered Q) {payload : Value} (hpayload : Q payload)

theorem orOther_of {v other : Value} (hv : Q v) (hother : Q other) : Q (orOther v other) := by
  rw [orOther]
  split
  · exact hv
  · exact hother

include hQ

include hpayload

/-- The nodes that were sent are parts of what was sent. -/
theorem layered_nodesOf {nodes : List Value} (h : nodesOf payload = .ok nodes) : ∀ v ∈ nodes, Q v := by
  have hnodes : Q (payload.fieldOrNull "nodes") := hQ.fieldOrNull hpayload "nodes"
  rw [nodesOf] at h
  split at h
  · next n ns hlist =>
      cases h
      rw [hlist] at hnodes
      exact hQ.item hnodes
  · next n ns hobject =>
      cases h
      rw [hobject] at hnodes
      intro v hv
      obtain ⟨f, hf, rfl⟩ := List.mem_map.mp hv
      exact hQ.field hnodes f hf
  · cases h

theorem layered_documentOf {nodes : List Value} (hnodes : ∀ v ∈ nodes, Q v) {head : Fields Value}
    (hhead : Q (.object head)) : Q (documentOf payload nodes head) := by
  have hstop := hQ.set hhead (hQ.bool (payload.fieldOrNull "stop_propagation").truthy) "stop_propagation"
  have hgraph := hQ.set hstop (hQ.list hnodes) "nodes"
  have hnone : Q (.list []) := hQ.list (by simp)
  have hedges := orOther_of (hQ.fieldOrNull hpayload "connections") hnone
  exact hQ.set hgraph hedges "connections"

theorem layered_headOf {known : Workflow} (hknown : Q known.toValue) :
    Q (.object (headOf payload known)) := by
  have hgetD : ∀ (name : Text) {other : Value}, Q other → Q ((payload.field? name).getD other) := by
    intro name other hother
    cases h : payload.field? name with
    | none => exact hother
    | some v => exact hQ.field? hpayload h
  have hsent : ∀ name, Q (payload.fieldOrNull name) := hQ.fieldOrNull hpayload
  have hname := hQ.set hknown (orOther_of (hsent "name") (hQ.text known.name)) "name"
  have hkind := hQ.set hname (orOther_of (hsent "trigger_type") (hQ.text known.triggerKind))
    "trigger_type"
  have hcontent := hQ.set hkind (hgetD "trigger_content" (hQ.text known.triggerContent))
    "trigger_content"
  exact hQ.set hcontent (hgetD "enabled" (hQ.bool known.enabled)) "enabled"

theorem layered_newHead (id : Text) : Q (.object (newHead payload id)) := by
  have hsent : ∀ name, Q (payload.fieldOrNull name) := hQ.fieldOrNull hpayload
  have hid := hQ.set hQ.empty (hQ.text id) "id"
  have hname := hQ.set hid (orOther_of (hsent "name") (hQ.text Workflow.unnamed)) "name"
  have hkind := hQ.set hname (orOther_of (hsent "trigger_type") (hQ.text "exact")) "trigger_type"
  have hcontent := hQ.set hkind (orOther_of (hsent "trigger_content") (hQ.text []))
    "trigger_content"
  exact hQ.set hcontent (hQ.bool (payload.fieldOrNull "enabled" ≠ .bool false)) "enabled"

end Documents

/-! ## Kinds of workflows -/

/-- Workflows of kind `P` are those that are read of documents of kind `Q`: they are written as such
documents, and stay of the kind when they are enabled or disabled. -/
structure Lasts (Q : Value → Prop) (P : Workflow → Prop) : Prop where
  layered : Value.Layered Q
  read : ∀ {v w}, Q v → Workflow.check v = .accepted w → P w
  written : ∀ {w}, P w → Q w.toValue
  enabled : ∀ {w}, P w → ∀ b, P { w with enabled := b }

theorem lasts_writable : Lasts Value.IsDocument Workflow.Writable where
  layered := Value.layered_isDocument
  read := fun hv h => Workflow.writable_of_check h hv
  written := fun h => h.isDocument
  enabled := fun h _ => ⟨h.nodes, h.differ, h.kept⟩

theorem lasts_settled : Lasts (fun v => v.IsDocument ∧ v.settled = v) Workflow.Settled where
  layered := Value.layered_isDocument.and Value.layered_settled
  read := fun hv h => Workflow.settled_of_check h hv.1 hv.2
  written := fun h => ⟨h.isDocument, h.settled_toValue⟩
  enabled := fun h _ => ⟨⟨h.nodes, h.differ, h.kept⟩, h.back, h.finite⟩

end Catalog

end ChatFlow
