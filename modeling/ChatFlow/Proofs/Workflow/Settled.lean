import ChatFlow.Proofs.Workflow.Settings
import ChatFlow.Workflow.Basic

/-!
# Workflows that are read and written

A workflow that was read is written as a document, and reading this document gives the workflow again,
unless there was a number in it that is not finite: older forms, and values of neighbouring kinds, are gone
once a workflow has been read.

* `Check.map_eq_accepted`, `Check.seq_eq_accepted`: what is accepted is accepted part by part.
* `Workflow.exists_parts`: the parts of which a workflow was read.
* `Workflow.Writable`: workflows that are written as documents.
* `Workflow.Settled`: workflows that are read again as they were.
* `Workflow.settled_of_check`: those that were read of documents are.
-/

namespace ChatFlow

/-! ## Parts that are accepted -/

namespace Check

variable {α β : Type}

theorem seq_eq_accepted {f : Check (α → β)} {x : Check α} {b : β} :
    f <*> x = accepted b ↔ ∃ g a, f = accepted g ∧ x = accepted a ∧ g a = b := by
  constructor
  · intro h
    cases f with
    | accepted g =>
        cases x with
        | accepted a =>
            cases h
            exact ⟨g, a, rfl, rfl, rfl⟩
        | refused n => cases h
    | refused m =>
        cases x with
        | accepted a => cases h
        | refused n => cases h
  · rintro ⟨g, a, rfl, rfl, rfl⟩
    rfl

theorem map_eq_accepted {f : α → β} {x : Check α} {b : β} :
    f <$> x = accepted b ↔ ∃ a, x = accepted a ∧ f a = b := by
  constructor
  · intro h
    obtain ⟨g, a, hg, ha, hb⟩ := seq_eq_accepted.mp h
    cases hg
    exact ⟨a, ha, hb⟩
  · rintro ⟨a, rfl, rfl⟩
    rfl

/-- Items that are accepted are accepted one by one. -/
theorem exists_of_items {item : Value → Check α} {vs : List Value} {as : List α}
    (h : items item vs = accepted as) : ∀ a ∈ as, ∃ v ∈ vs, item v = accepted a := by
  induction vs generalizing as with
  | nil =>
      cases h
      simp
  | cons v vs ih =>
      rw [items] at h
      obtain ⟨g, rest, hg, hrest, has⟩ := seq_eq_accepted.mp h
      obtain ⟨a, ha, rfl⟩ := map_eq_accepted.mp hg
      subst has
      intro b hb
      rcases List.mem_cons.mp hb with rfl | hb
      · exact ⟨v, List.mem_cons_self, ha⟩
      · obtain ⟨w, hw, hitem⟩ := ih hrest b hb
        exact ⟨w, List.mem_cons_of_mem v hw, hitem⟩

/-- Items of a list that may be left out are those of a list among the fields. -/
theorem exists_of_fieldOr {fields : Fields Value} {name : Text} {item : Value → Check α} {as : List α}
    (h : fieldOr fields name [] (list item) = accepted as) :
    ∀ a ∈ as, ∃ vs v, (name, Value.list vs) ∈ fields ∧ v ∈ vs ∧ item v = accepted a := by
  intro a ha
  unfold fieldOr at h
  cases hget : fields.get? name with
  | none =>
      rw [hget] at h
      cases h
      cases ha
  | some u =>
      rw [hget] at h
      cases u with
      | list vs =>
          obtain ⟨v, hv, hitem⟩ := exists_of_items h a ha
          exact ⟨vs, v, Fields.mem_of_get? hget, hv, hitem⟩
      | _ => cases h

theorem items_map {item : Value → Check α} {write : α → Value} {as : List α}
    (h : ∀ a ∈ as, item (write a) = accepted a) : items item (as.map write) = accepted as := by
  induction as with
  | nil => rfl
  | cons a as ih =>
      have hfirst := h a List.mem_cons_self
      have hrest := ih fun b hb => h b (List.mem_cons_of_mem a hb)
      rw [List.map_cons, items, hfirst, hrest]
      rfl

/-- Items that are written in a form that is accepted are accepted, and what each one keeps of its own is
kept. -/
theorem exists_items_map {item : Value → Check α} {write : α → Value} {part : α → β}
    (h : ∀ a, ∃ b, item (write a) = accepted b ∧ part b = part a) (as : List α) :
    ∃ bs, items item (as.map write) = accepted bs ∧ bs.map part = as.map part := by
  induction as with
  | nil => exact ⟨[], rfl, rfl⟩
  | cons a as ih =>
      obtain ⟨b, hb, hpart⟩ := h a
      obtain ⟨bs, hbs, hparts⟩ := ih
      refine ⟨b :: bs, ?_, by rw [List.map_cons, List.map_cons, hpart, hparts]⟩
      rw [List.map_cons, items, hb, hbs]
      rfl

end Check

/-! ## Connections -/

namespace Connection

theorem isDocument_toValue (c : Connection) : c.toValue.IsDocument := by
  have hnames : (["from_node", "to_node", "from_output"] : List Text).Nodup := by decide
  refine .object hnames ?_
  simp only [List.mem_cons, List.not_mem_nil, or_false]
  rintro f (rfl | rfl | rfl)
  · exact .text _
  · exact .text _
  · exact .text _

/-- A connection is read as it is written. -/
theorem check_toValue (c : Connection) : check c.toValue = .accepted c := by
  obtain ⟨origin, target, slot⟩ := c
  cases slot with
  | first => rfl
  | second => rfl

end Connection

/-! ## Nodes -/

namespace Node

variable {k : NodeKind} {fs : Fields Value} {n : Node} {v : Value} {body : NodeBody}

/-- The settings of a node are read of nothing, or of an object among its fields. -/
theorem exists_data (h : checkBody k fs = .accepted body) :
    ∃ data, body = .ofFields k data ∧ (data = [] ∨ (("data" : Text), Value.object data) ∈ fs) := by
  unfold checkBody at h
  split at h
  · cases h
    exact ⟨[], rfl, .inl rfl⟩
  · cases h
    exact ⟨[], rfl, .inl rfl⟩
  · next v _ hdata =>
      obtain ⟨data, hobject, rfl⟩ := Check.map_eq_accepted.mp h
      cases v with
      | object fields =>
          cases hobject
          exact ⟨_, rfl, .inr (Fields.mem_of_get? hdata)⟩
      | _ => cases hobject

/-- The settings of a node that was read of a document are those of a document, and so without numbers that
are not finite. -/
theorem exists_document (h : checkBody k fs = .accepted body) (hfs : (Value.object fs).IsDocument) :
    ∃ data, body = .ofFields k data ∧ (Value.object data).IsDocument ∧
      ((∀ f ∈ fs, f.2.settled = f.2) → ∀ f ∈ data, f.2.settled = f.2) := by
  obtain ⟨data, hbody, hnone | hmem⟩ := exists_data h
  · subst hnone
    exact ⟨[], hbody, .object List.nodup_nil (by simp), by simp⟩
  · refine ⟨data, hbody, ?_, ?_⟩
    · exact hfs.field _ hmem
    · intro hfinite
      exact Value.settled_object (hfinite _ hmem)

/-- A node that was read has the kind that it names; its id, its settings and all other parts are those of
its fields. -/
theorem exists_fields (h : check v = .accepted n) :
    ∃ fs k body, v = .object fs ∧ Check.field fs "id" Check.text = .accepted n.id ∧
      checkBody k fs = .accepted body ∧
      n = ⟨n.id, Loose.position fs "x", Loose.position fs "y", body, Fields.without fs names⟩ := by
  unfold check at h
  split at h
  · next fs =>
      split at h
      · next k hk =>
          obtain ⟨g, body, hg, hbody, hn⟩ := Check.seq_eq_accepted.mp h
          obtain ⟨id, hid, rfl⟩ := Check.map_eq_accepted.mp hg
          subst hn
          exact ⟨fs, k, body, rfl, hid, hbody, rfl⟩
      · cases h
  · cases h

/-- The fields of every node. -/
def declared (n : Node) : Fields Value :=
  [("id", .text n.id), ("x", coordinate n.x), ("y", coordinate n.y), ("type", .text n.body.kind.label),
   ("data", (Value.object n.body.toFields).settled)]

theorem toValue_eq (n : Node) : n.toValue = .object (n.declared ++ Value.settledFields n.extra) := rfl

theorem isDocument_coordinate (x : Option Double) : (coordinate x).IsDocument := by
  cases x with
  | none => exact .null
  | some x => exact .float x

/-- A node that was read of a document is written as one. -/
theorem isDocument_toValue (h : check v = .accepted n) (hv : v.IsDocument) : n.toValue.IsDocument := by
  obtain ⟨fs, k, body, rfl, -, hbody, hn⟩ := exists_fields h
  obtain ⟨data, rfl, hdata, -⟩ := exists_document hbody hv
  have hkept : Fields.Kept names n.extra := by
    rw [hn]
    exact Fields.kept_without hv names
  have hsettings : (Value.object n.body.toFields).IsDocument := by
    rw [hn]
    exact NodeBody.isDocument_toFields hdata k
  rw [toValue_eq]
  refine hkept.settled.isDocument_append rfl (by decide) ?_
  simp only [declared, List.mem_cons, List.not_mem_nil, or_false]
  rintro f (rfl | rfl | rfl | rfl | rfl)
  · exact .text _
  · exact isDocument_coordinate _
  · exact isDocument_coordinate _
  · exact .text _
  · exact hsettings.settled

theorem isFinite_position {fs : Fields Value} {name : Text} {x : Double}
    (h : Loose.position fs name = some x) : x.isFinite = true := by
  obtain ⟨v, -, hv⟩ := Option.bind_eq_some_iff.mp h
  exact (Option.filter_eq_some_iff.mp hv).2

theorem settled_coordinate (fs : Fields Value) (name : Text) :
    (coordinate (Loose.position fs name)).settled = coordinate (Loose.position fs name) := by
  cases h : Loose.position fs name with
  | none => rfl
  | some x => simp [coordinate, Value.settled, isFinite_position h]

/-- What is written of a node that was read has no numbers that are not finite. -/
theorem settled_toValue (h : check v = .accepted n) (hv : v.IsDocument) :
    n.toValue.settled = n.toValue := by
  obtain ⟨fs, k, body, rfl, -, hbody, hn⟩ := exists_fields h
  obtain ⟨data, rfl, hdata, -⟩ := exists_document hbody hv
  have hkept : Fields.Kept names (Fields.without fs names) := Fields.kept_without hv names
  have hsettings := (NodeBody.isDocument_toFields hdata k).settled_settled
  generalize n.id = id at hn
  subst hn
  rw [toValue_eq, Value.settled]
  refine congrArg Value.object (Value.settledFields_eq_self.mpr ?_)
  intro f hf
  rcases List.mem_append.mp hf with hdeclared | hextra
  · simp only [declared, List.mem_cons, List.not_mem_nil, or_false] at hdeclared
    obtain rfl | rfl | rfl | rfl | rfl := hdeclared
    · rfl
    · exact settled_coordinate fs "x"
    · exact settled_coordinate fs "y"
    · rfl
    · exact hsettings
  · rw [Value.settledFields_eq] at hextra
    obtain ⟨g, hg, rfl⟩ := List.mem_map.mp hextra
    exact (hkept.documents g hg).settled_settled

theorem position_coordinate {fs gs : Fields Value} {name : Text}
    (h : gs.get? name = some (coordinate (Loose.position fs name))) :
    Loose.position gs name = Loose.position fs name := by
  rw [Loose.position, h]
  cases hposition : Loose.position fs name with
  | none => rfl
  | some x =>
      show Option.filter Double.isFinite (some x) = some x
      rw [Option.filter_some, if_pos (isFinite_position hposition)]

theorem get?_label (k : NodeKind) : Fields.get? NodeKind.words k.label = some k := by
  cases k <;> rfl

/-- Every node is written in a form that is accepted, under its id. -/
theorem exists_check_toValue (n : Node) : ∃ m, check n.toValue = .accepted m ∧ m.id = n.id := by
  have hkind : Check.field (n.declared ++ Value.settledFields n.extra) "type"
      (Check.word NodeKind.words) = .accepted n.body.kind := by
    show Check.ofOption (Fields.get? NodeKind.words n.body.kind.label) = _
    rw [get?_label]
    rfl
  rw [toValue_eq, check, hkind]
  exact ⟨_, rfl, rfl⟩

/-- A node that was read of a document without numbers that are not finite is read again as it is
written. -/
theorem check_toValue (h : check v = .accepted n) (hv : v.IsDocument) (hfinite : v.settled = v) :
    check n.toValue = .accepted n := by
  obtain ⟨fs, k, body, rfl, -, hbody, hn⟩ := exists_fields h
  obtain ⟨data, rfl, hdata, hdataFinite⟩ := exists_document hbody hv
  have hfields := Value.settled_object hfinite
  generalize n.id = id at hn
  subst hn
  have hkept : Fields.Kept names (Fields.without fs names) := Fields.kept_without hv names
  have hextra : Value.settledFields (Fields.without fs names) = Fields.without fs names :=
    Value.settledFields_eq_self.mpr fun f hf => hfields f (Fields.mem_without.mp hf).1
  have hsettings : (Value.object (NodeBody.ofFields k data).toFields).settled =
      .object (NodeBody.ofFields k data).toFields :=
    congrArg Value.object (NodeBody.settled_toFields k (hdataFinite hfields))
  rw [toValue_eq, hextra]
  -- in what is written, `gs`, each part of the node is found again
  generalize hgs : declared _ ++ Fields.without fs names = gs
  have hwithout : Fields.without gs names = Fields.without fs names := by
    rw [← hgs]
    exact hkept.without_append rfl
  have hx : Loose.position gs "x" = Loose.position fs "x" := by
    rw [← hgs]
    exact position_coordinate rfl
  have hy : Loose.position gs "y" = Loose.position fs "y" := by
    rw [← hgs]
    exact position_coordinate rfl
  have hid : Check.field gs "id" Check.text = .accepted id := by
    rw [← hgs]
    rfl
  have hkind : Check.field gs "type" (Check.word NodeKind.words) = .accepted k := by
    have hget : gs.get? "type" = some (.text k.label) := by
      rw [← hgs]
      exact congrArg (fun kind => some (Value.text kind.label)) (NodeBody.kind_ofFields k data)
    rw [Check.field, hget]
    show Check.ofOption (Fields.get? NodeKind.words k.label) = .accepted k
    rw [get?_label]
    rfl
  have hbody' : checkBody k gs = .accepted (.ofFields k data) := by
    have hget : gs.get? "data" = some (.object (NodeBody.ofFields k data).toFields) := by
      rw [← hgs, ← hsettings]
      rfl
    have hread := NodeBody.ofFields_toFields hdata k
    rw [checkBody, hget]
    show Check.accepted (NodeBody.ofFields k (NodeBody.ofFields k data).toFields) = _
    rw [hread]
  rw [check, hkind]
  show checkFields k gs = _
  rw [checkFields, hid, hbody', hx, hy, hwithout]
  rfl

end Node

/-! ## Workflows -/

namespace Workflow

variable {w : Workflow} {v : Value} {fs : Fields Value}

/-- The nodes are written as documents, their ids differ, and other fields can be kept. -/
structure Writable (w : Workflow) : Prop where
  nodes : ∀ n ∈ w.nodes, n.toValue.IsDocument
  differ : idsDiffer w.nodes
  kept : Fields.Kept names w.extra

/-- The nodes are read again as they were, and other fields are written as they are. -/
structure Settled (w : Workflow) : Prop extends Writable w where
  back : ∀ n ∈ w.nodes, Node.check n.toValue = .accepted n
  finite : ∀ f ∈ w.extra, f.2.settled = f.2

/-- The fields of every workflow. -/
def declared (w : Workflow) : Fields Value :=
  [("id", .text w.id), ("name", .text w.name), ("trigger_type", .text w.triggerKind),
   ("trigger_content", .text w.triggerContent), ("enabled", .bool w.enabled),
   ("stop_propagation", .bool w.stopPropagation), ("nodes", .list (w.nodes.map Node.toValue)),
   ("connections", .list (w.connections.map Connection.toValue))]

theorem toValue_eq (w : Workflow) : w.toValue = .object (w.declared ++ Value.settledFields w.extra) := rfl

/-- Such a workflow is written as a document. -/
theorem Writable.isDocument (h : w.Writable) : w.toValue.IsDocument := by
  rw [toValue_eq]
  refine h.kept.settled.isDocument_append rfl (by decide) ?_
  simp only [declared, List.mem_cons, List.not_mem_nil, or_false]
  rintro f (rfl | rfl | rfl | rfl | rfl | rfl | rfl | rfl)
  · exact .text _
  · exact .text _
  · exact .text _
  · exact .text _
  · exact .bool _
  · exact .bool _
  · refine .list ?_
    intro v hv
    obtain ⟨n, hn, rfl⟩ := List.mem_map.mp hv
    exact h.nodes n hn
  · refine .list ?_
    intro v hv
    obtain ⟨c, -, rfl⟩ := List.mem_map.mp hv
    exact c.isDocument_toValue

theorem idsDiffer_congr {ns ms : List Node} (h : ns.map Node.id = ms.map Node.id) :
    idsDiffer ns = idsDiffer ms := by
  induction ns generalizing ms with
  | nil =>
      cases ms with
      | nil => rfl
      | cons m ms => cases h
  | cons n ns ih =>
      cases ms with
      | nil => cases h
      | cons m ms =>
          obtain ⟨hfirst, hrest⟩ := List.cons_eq_cons.mp h
          have hothers : (ns.all fun k => k.id ≠ n.id) = ms.all fun k => k.id ≠ m.id := by
            have hids := congrArg (fun ids => ids.all fun id => decide (id ≠ m.id)) hrest
            rw [List.all_map, List.all_map] at hids
            rw [hfirst]
            exact hids
          rw [idsDiffer, idsDiffer, hothers, ih hrest]

/-- A workflow with nodes of different ids is written in a form that is accepted, under its id. -/
theorem exists_check_toValue (h : idsDiffer w.nodes) :
    ∃ u, check w.toValue = .accepted u ∧ u.id = w.id := by
  obtain ⟨nodes, hnodes, hids⟩ := Check.exists_items_map Node.exists_check_toValue w.nodes
  have hconnections : Check.items Connection.check (w.connections.map Connection.toValue) =
      .accepted w.connections := Check.items_map fun c _ => c.check_toValue
  have hself : nodesOf w.toFields = w.toFields := rfl
  have hparts : Check.fieldOr w.toFields "nodes" [] (Check.list Node.check) = .accepted nodes := hnodes
  have hedges : Check.fieldOr w.toFields "connections" [] (Check.list Connection.check) =
      .accepted w.connections := hconnections
  simp only [toValue, check, hself, hparts, hedges]
  show ∃ u, (if idsDiffer nodes then Check.accepted (Workflow.mk ..) else Check.refuse) = .accepted u ∧ _
  rw [idsDiffer_congr hids, if_pos h]
  exact ⟨_, rfl, rfl⟩

/-- Such a workflow is read again as it is written. -/
theorem Settled.check_toValue (h : w.Settled) : check w.toValue = .accepted w := by
  have hextra : Value.settledFields w.extra = w.extra := Value.settledFields_eq_self.mpr h.finite
  have hnodes : Check.items Node.check (w.nodes.map Node.toValue) = .accepted w.nodes :=
    Check.items_map h.back
  have hconnections : Check.items Connection.check (w.connections.map Connection.toValue) =
      .accepted w.connections := Check.items_map fun c _ => c.check_toValue
  have hwithout : Fields.without (w.declared ++ w.extra) names = w.extra := h.kept.without_append rfl
  have hself : nodesOf (w.declared ++ w.extra) = w.declared ++ w.extra := rfl
  have hid : Check.field (w.declared ++ w.extra) "id" Check.text = .accepted w.id := rfl
  have hname : Check.fieldOr (w.declared ++ w.extra) "name" unnamed Check.text = .accepted w.name := rfl
  have hkind : Check.fieldOr (w.declared ++ w.extra) "trigger_type" ("exact" : Text) Check.text =
      .accepted w.triggerKind := rfl
  have hcontent : Check.fieldOr (w.declared ++ w.extra) "trigger_content" [] Check.text =
      .accepted w.triggerContent := rfl
  have henabled : Check.fieldOr (w.declared ++ w.extra) "enabled" true Check.bool =
      .accepted w.enabled := rfl
  have hstop : Check.fieldOr (w.declared ++ w.extra) "stop_propagation" false Check.bool =
      .accepted w.stopPropagation := rfl
  have hlist : Check.fieldOr (w.declared ++ w.extra) "nodes" [] (Check.list Node.check) =
      .accepted w.nodes := hnodes
  have hedges : Check.fieldOr (w.declared ++ w.extra) "connections" [] (Check.list Connection.check) =
      .accepted w.connections := hconnections
  rw [toValue_eq, hextra]
  simp only [check, hself, hid, hname, hkind, hcontent, henabled, hstop, hlist, hedges, hwithout]
  show (if idsDiffer w.nodes then Check.accepted w else Check.refuse) = .accepted w
  rw [if_pos h.differ]

/-- What is written of such a workflow has no numbers that are not finite. -/
theorem Settled.settled_toValue (h : w.Settled) : w.toValue.settled = w.toValue := by
  rw [toValue_eq, Value.settled]
  refine congrArg Value.object (Value.settledFields_eq_self.mpr ?_)
  intro f hf
  rcases List.mem_append.mp hf with hdeclared | hextra
  · simp only [declared, List.mem_cons, List.not_mem_nil, or_false] at hdeclared
    obtain rfl | rfl | rfl | rfl | rfl | rfl | rfl | rfl := hdeclared
    · rfl
    · rfl
    · rfl
    · rfl
    · rfl
    · rfl
    · refine congrArg Value.list (Value.settledItems_eq_self.mpr ?_)
      intro v hv
      obtain ⟨n, hn, rfl⟩ := List.mem_map.mp hv
      exact Node.settled_toValue (h.back n hn) (h.nodes n hn)
    · refine congrArg Value.list (Value.settledItems_eq_self.mpr ?_)
      intro v hv
      obtain ⟨c, -, rfl⟩ := List.mem_map.mp hv
      rfl
  · rw [Value.settledFields_eq_self.mpr h.finite] at hextra
    exact h.finite f hextra

/-- Nodes that stand under names are those of a document too. -/
theorem nodesOf_spec (h : (Value.object fs).IsDocument) :
    (Value.object (nodesOf fs)).IsDocument ∧
      ((∀ f ∈ fs, f.2.settled = f.2) → ∀ f ∈ nodesOf fs, f.2.settled = f.2) := by
  unfold nodesOf
  split
  · next nodes hnodes =>
      have hmem := Fields.mem_of_get? hnodes
      constructor
      · refine .object (Fields.nodup_set h.names_nodup _ _) ?_
        intro f hf
        rcases Fields.mem_set hf with hold | hnew
        · exact h.field f hold
        · rw [hnew]
          refine .list ?_
          intro v hv
          obtain ⟨g, hg, rfl⟩ := List.mem_map.mp hv
          exact (h.field _ hmem).field g hg
      · intro hfinite f hf
        rcases Fields.mem_set hf with hold | hnew
        · exact hfinite f hold
        · rw [hnew, Value.settled]
          refine congrArg Value.list (Value.settledItems_eq_self.mpr ?_)
          intro v hv
          obtain ⟨g, hg, rfl⟩ := List.mem_map.mp hv
          exact Value.settled_object (hfinite _ hmem) g hg
  · exact ⟨h, fun hfinite => hfinite⟩

/-- The parts of the workflow are read of the fields. -/
structure Parts (fs : Fields Value) (w : Workflow) : Prop where
  id : Check.field fs "id" Check.text = .accepted w.id
  name : Check.fieldOr fs "name" unnamed Check.text = .accepted w.name
  triggerKind : Check.fieldOr fs "trigger_type" ("exact" : Text) Check.text = .accepted w.triggerKind
  triggerContent : Check.fieldOr fs "trigger_content" [] Check.text = .accepted w.triggerContent
  enabled : Check.fieldOr fs "enabled" true Check.bool = .accepted w.enabled
  stopPropagation : Check.fieldOr fs "stop_propagation" false Check.bool = .accepted w.stopPropagation
  nodes : Check.fieldOr fs "nodes" [] (Check.list Node.check) = .accepted w.nodes
  connections : Check.fieldOr fs "connections" [] (Check.list Connection.check) = .accepted w.connections
  extra : w.extra = fs.without names
  differ : idsDiffer w.nodes

/-- A workflow is read of an object, part by part. -/
theorem exists_parts (h : check v = .accepted w) : ∃ fs, v = .object fs ∧ Parts (nodesOf fs) w := by
  unfold check at h
  split at h
  · next fs =>
      dsimp only at h
      split at h
      · next w' hparts =>
          split at h
          · next hdiffer =>
              cases h
              -- the last part that is checked comes off first
              obtain ⟨f₈, extra, h₈, hextra, rfl⟩ := Check.seq_eq_accepted.mp hparts
              obtain ⟨f₇, connections, h₇, hconnections, rfl⟩ := Check.seq_eq_accepted.mp h₈
              obtain ⟨f₆, nodes, h₆, hnodes, rfl⟩ := Check.seq_eq_accepted.mp h₇
              obtain ⟨f₅, stop, h₅, hstop, rfl⟩ := Check.seq_eq_accepted.mp h₆
              obtain ⟨f₄, enabled, h₄, henabled, rfl⟩ := Check.seq_eq_accepted.mp h₅
              obtain ⟨f₃, content, h₃, hcontent, rfl⟩ := Check.seq_eq_accepted.mp h₄
              obtain ⟨f₂, kind, h₂, hkind, rfl⟩ := Check.seq_eq_accepted.mp h₃
              obtain ⟨f₁, name, h₁, hname, rfl⟩ := Check.seq_eq_accepted.mp h₂
              obtain ⟨id, hid, rfl⟩ := Check.map_eq_accepted.mp h₁
              cases hextra
              exact ⟨fs, rfl, hid, hname, hkind, hcontent, henabled, hstop, hnodes, hconnections, rfl,
                hdiffer⟩
          · cases h
      · cases h
  · cases h

/-- The nodes of a workflow that was read are read of parts of its document. -/
theorem Parts.exists_node (h : Parts fs w) : ∀ n ∈ w.nodes,
    ∃ vs u, (("nodes" : Text), Value.list vs) ∈ fs ∧ u ∈ vs ∧ Node.check u = .accepted n :=
  Check.exists_of_fieldOr h.nodes

/-- A workflow that was read of a document is written as one. -/
theorem writable_of_check (h : check v = .accepted w) (hv : v.IsDocument) : w.Writable := by
  obtain ⟨fs, rfl, hparts⟩ := exists_parts h
  have hfs := (nodesOf_spec hv).1
  refine ⟨?_, hparts.differ, ?_⟩
  · intro n hn
    obtain ⟨vs, u, hvs, hu, hcheck⟩ := hparts.exists_node n hn
    exact Node.isDocument_toValue hcheck ((hfs.field _ hvs).item u hu)
  · rw [hparts.extra]
    exact Fields.kept_without hfs names

/-- A workflow that was read of a document without numbers that are not finite is read again as it is
written. -/
theorem settled_of_check (h : check v = .accepted w) (hv : v.IsDocument) (hfinite : v.settled = v) :
    w.Settled := by
  have hwritable := writable_of_check h hv
  obtain ⟨fs, rfl, hparts⟩ := exists_parts h
  obtain ⟨hfs, hfields⟩ := nodesOf_spec hv
  have hfields := hfields (Value.settled_object hfinite)
  refine { hwritable with back := ?_, finite := ?_ }
  · intro n hn
    obtain ⟨vs, u, hvs, hu, hcheck⟩ := hparts.exists_node n hn
    exact Node.check_toValue hcheck ((hfs.field _ hvs).item u hu) (Value.settled_list (hfields _ hvs) u hu)
  · intro f hf
    rw [hparts.extra] at hf
    exact hfields f (Fields.mem_without.mp hf).1

end Workflow

end ChatFlow
